import FormulaLexer.Scanner

/-!
# Traces

A scan can be followed through its events: every token, every problem just before the
token that has it, and a summary at the end.
-/

set_option autoImplicit false
set_option linter.unusedVariables false

namespace FormulaLexer

/-- How much of a scan is shown; each level shows what the later ones show. -/
inductive TraceLevel where
  | trace
  | debug
  | info
  deriving DecidableEq

inductive TraceEvent where
  | token (found : Token)
  | problem (diagnostic : Diagnostic)
  | summary (tokens problems : Nat)
  deriving DecidableEq

namespace TraceEvent

def shownAt (event : TraceEvent) (level : TraceLevel) : Bool :=
  match event, level with
  | _, .trace => true
  | .token _, .debug => false
  | _, .debug => true
  | _, .info => false

/-- The line of an event in the scan of a source with `length` bytes. -/
def line (length : Nat) (event : TraceEvent) : String :=
  let scope := " scan\x7blen=" ++ toString length ++ "\x7d: bajic_lexer"
  match event with
  | .token found =>
    "TRACE" ++ scope ++ "::scanner: token kind=" ++ found.kind.name ++
      s!" start={found.start} end={found.stop}"
  | .problem diagnostic =>
    "DEBUG" ++ scope ++ "::scanner: lexical error span=" ++ diagnostic.span.display ++
      " kind=" ++ diagnostic.problem.message
  | .summary tokens problems =>
    "DEBUG" ++ scope ++ s!": scanned source tokens={tokens} errors={problems}"

end TraceEvent

namespace Scanner

variable {buffer : SourceBuffer}

/-- The events up to the end of the source, when `count` tokens came before. -/
def events (scanner : Scanner buffer) (count : Nat) : Except Fault (List TraceEvent) :=
  match produced : scanner.next with
  | .error fault => .error fault
  | .ok (none, last) => .ok [.summary count last.diagnostics.size]
  | .ok (some token, after) =>
    match after.events (count + 1) with
    | .error fault => .error fault
    | .ok rest =>
      let problems := after.diagnostics.toList.drop scanner.diagnostics.size
      .ok (problems.map .problem ++ .token token :: rest)
termination_by scanner.cursor.remaining
decreasing_by exact remaining_lt_of_next produced

end Scanner

def traceEvents (source : String) : Except Fault (List TraceEvent) := do
  (Scanner.start (← sourceBuffer source)).events 0

def traceLines (level : TraceLevel) (source : String) : Except Fault (List String) := do
  let shown := (← traceEvents source).filter (·.shownAt level)
  return shown.map (·.line source.utf8ByteSize)

end FormulaLexer
