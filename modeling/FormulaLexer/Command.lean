import FormulaLexer.Files.Reading
import FormulaLexer.Listing

/-!
# Command line

Arguments are read as a command, and a command is answered with an exit code and the
texts for standard output and standard error. Files are read through a function that
is handed in, so that a command can be answered without a file system.
-/

set_option autoImplicit false

namespace FormulaLexer

/-- What the arguments ask for. -/
inductive Command where
  | usage
  | version
  /-- List the tokens of a file. -/
  | lexFile (path : String)
  /-- List the tokens of a text given as an argument. -/
  | lexText (text : String)
  /-- `lex` was given nothing to list. -/
  | lexNothing
  /-- The option for a text was given without one. -/
  | lexMissingText
  | unknown (name : String)
  deriving DecidableEq

/-- How a command ended. -/
structure Outcome where
  code : Nat
  stdout : String
  stderr : String
  deriving DecidableEq

namespace Command

/-- Reads the arguments of `lex`. Arguments behind those needed are ignored. -/
def parseLex : List String → Command
  | [] => .lexNothing
  | "-e" :: rest | "--expr" :: rest =>
    match rest with
    | [] => .lexMissingText
    | text :: _ => .lexText text
  | path :: _ => .lexFile path

def parse : List String → Command
  | [] => .usage
  | "lex" :: rest => parseLex rest
  | "help" :: _ | "--help" :: _ | "-h" :: _ => .usage
  | "version" :: _ | "--version" :: _ | "-V" :: _ => .version
  | name :: _ => .unknown name

def usageText : String :=
  "Bajic front end\n\nUsage: bajic <command> [options]\n\nCommands:\n" ++
  "  lex <file>       Tokenize a file and display tokens\n" ++
  "  lex -e <text>    Tokenize the given text\n" ++
  "  help             Show this help message\n" ++
  "  version          Show version information\n\n" ++
  "Set RUST_LOG (e.g. RUST_LOG=bajic_lexer=trace) for scanner tracing.\n"

def versionText : String := "bajic 0.1.0\n"

def succeeded (output : String) : Outcome := ⟨0, output, ""⟩

def failed (message : String) : Outcome := ⟨1, "", message⟩

/-- The listing of a file's source, or the sentence for the failure to read it. -/
def listFile (path : String) (source : Except ReadFailure String) :
    Except Fault (Except String String) :=
  match source with
  | .error failure => .ok (.error (failure.message path))
  | .ok text => (Listing.render (Listing.fileLabel path) text).map .ok

/-- Answers a command; `read` gives the source in a file. -/
def run {m : Type → Type} [Monad m] (read : String → m (Except ReadFailure String)) :
    Command → m (Except Fault Outcome)
  | .usage => return .ok (succeeded usageText)
  | .version => return .ok (succeeded versionText)
  | .lexFile path => do
    let listing := listFile path (← read path)
    return listing.map fun
      | .ok text => succeeded text
      | .error message => failed (message ++ "\n")
  | .lexText text => return (Listing.render Listing.expressionLabel text).map succeeded
  | .lexNothing => return .ok (failed "Usage: bajic lex <file> | bajic lex -e <text>\n")
  | .lexMissingText =>
    return .ok (failed "error: missing text after -e\nUsage: bajic lex -e <text>\n")
  | .unknown name => return .ok ⟨1, usageText, "Unknown command: " ++ name ++ "\n\n"⟩

end Command

end FormulaLexer
