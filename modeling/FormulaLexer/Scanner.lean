import FormulaLexer.Decode.Offsets
import FormulaLexer.Lexeme.Basic
import FormulaLexer.Token.Buffer

/-!
# Scanning

A scanner moves a cursor over a buffer, one token at a time, and keeps the
diagnostics it has met. `lex` runs a scanner over a whole source.
-/

set_option autoImplicit false
set_option linter.unusedVariables false

namespace FormulaLexer

/-- A place in a buffer, and the diagnostics of the tokens before it. -/
structure Scanner (buffer : SourceBuffer) where
  cursor : Cursor buffer
  diagnostics : Array Diagnostic

namespace Scanner

variable {buffer : SourceBuffer}

def start (buffer : SourceBuffer) : Scanner buffer := ⟨.start buffer, #[]⟩

def moveTo (scanner : Scanner buffer) (cursor : Cursor buffer) : Scanner buffer :=
  { scanner with cursor := cursor }

/-- Records a problem with the text from `start` up to the cursor. -/
def report (scanner : Scanner buffer) (start : Nat) (problem : Problem) : Scanner buffer :=
  { scanner with
    diagnostics := scanner.diagnostics.push ⟨⟨start, scanner.cursor.position⟩, problem⟩ }

def finish (scanner : Scanner buffer) (start : Nat) (kind : TokenKind) :
    Token × Scanner buffer :=
  (⟨start, scanner.cursor.position, kind⟩, scanner)

/-! ## Tokens -/

/-- A string literal: from its opening quote past its ending quote, or to the end of
the source. It is a string all the same when the ending quote is missing. -/
def string (scanner : Scanner buffer) (start : Nat) : Except Fault (Token × Scanner buffer) := do
  let (closed, after) ← (← scanner.cursor.advance).closeQuote
  let reached := scanner.moveTo after
  if closed then return reached.finish start .string
  else return (reached.report start .unterminatedString).finish start .string

/-- A date literal: from its opening mark past the next one, or to the end of the
source. The text between the marks must be a date. -/
def date (scanner : Scanner buffer) (start : Nat) : Except Fault (Token × Scanner buffer) := do
  let inner ← scanner.cursor.advance
  let (closed, closing) ← inner.skipTo Cursor.dateMarkByte
  if closed then
    let value ← Offsets.dateOfText (← closing.sliceFrom inner.position)
    let reached := scanner.moveTo (← closing.advance)
    if value.isSome then return reached.finish start .date
    else return (reached.report start .malformedDate).finish start .error
  else return ((scanner.moveTo closing).report start .unterminatedDate).finish start .error

def number (scanner : Scanner buffer) (start : Nat) : Except Fault (Token × Scanner buffer) := do
  let after ← scanner.cursor.eatWhile Cursor.isNumberByte
  return (scanner.moveTo after).finish start .number

/-- A mark, together with the following character if the two combine. -/
def mark (scanner : Scanner buffer) (start : Nat) (mark : Mark) (width : Nat) :
    Except Fault (Token × Scanner buffer) := do
  let after ← scanner.cursor.advanceBy width
  match (asciiChar? (← after.current)).bind mark.paired? with
  | some kind => return (scanner.moveTo (← after.advance)).finish start kind
  | none => return (scanner.moveTo after).finish start mark.alone

/-- A word: everything up to the next character that ends a word. -/
def word (scanner : Scanner buffer) (start : Nat) : Except Fault (Token × Scanner buffer) := do
  let after ← scanner.cursor.skipWord
  let kind ← Offsets.wordKind (← after.sliceFrom start)
  return (scanner.moveTo after).finish start kind

/-- The token under the cursor, which stands in the source and not on trivia. The byte
there decides what is read. -/
def token (scanner : Scanner buffer) : Except Fault (Token × Scanner buffer) := do
  let start := scanner.cursor.position
  let byte ← scanner.cursor.current
  if byte = Cursor.quoteByte then scanner.string start
  else if byte = Cursor.dateMarkByte then scanner.date start
  else if (asciiChar? byte).any Char.isDigit then scanner.number start
  else
    match ← scanner.cursor.mark? with
    | some (mark, width) => scanner.mark start mark width
    | none => scanner.word start

/-- The next token, and the scanner behind it. At the end of the source there is no
token. -/
def next (scanner : Scanner buffer) : Except Fault (Option Token × Scanner buffer) := do
  let first ← scanner.cursor.skipTrivia
  if first.atEnd then return (none, scanner.moveTo first)
  else
    let (token, after) ← (scanner.moveTo first).token
    return (some token, after)

/-! ## Progress -/

private theorem position_lt_of_string {scanner after : Scanner buffer} {start : Nat} {token : Token}
    (read : scanner.string start = .ok (token, after)) :
    scanner.cursor.position < after.cursor.position := by
  obtain ⟨inner, advanced, rest⟩ := bind_eq_ok_iff.mp read
  obtain ⟨⟨closed, last⟩, searched, result⟩ := bind_eq_ok_iff.mp rest
  have first := Cursor.position_of_advance advanced
  have second := Cursor.position_le_of_closeQuote searched
  have here : after.cursor = last := by
    simp only at result
    split at result <;> cases result <;> rfl
  rw [here]
  omega

private theorem position_lt_of_date {scanner after : Scanner buffer} {start : Nat} {token : Token}
    (read : scanner.date start = .ok (token, after)) :
    scanner.cursor.position < after.cursor.position := by
  obtain ⟨inner, advanced, rest⟩ := bind_eq_ok_iff.mp read
  obtain ⟨⟨closed, closing⟩, searched, result⟩ := bind_eq_ok_iff.mp rest
  have first := Cursor.position_of_advance advanced
  have second := (Cursor.position_of_skipTo searched).1
  cases closed with
  | false =>
      cases result
      simp only [report, moveTo]
      omega
  | true =>
      obtain ⟨text, _, result⟩ := bind_eq_ok_iff.mp result
      obtain ⟨value, _, result⟩ := bind_eq_ok_iff.mp result
      obtain ⟨last, stepped, result⟩ := bind_eq_ok_iff.mp result
      have third := Cursor.position_of_advance stepped
      have here : after.cursor = last := by
        simp only at result
        split at result <;> cases result <;> rfl
      rw [here]
      omega

private theorem position_lt_of_number {scanner after : Scanner buffer} {start : Nat} {token : Token}
    {byte : UInt8} (current : scanner.cursor.current = .ok byte)
    (digit : (asciiChar? byte).any Char.isDigit = true)
    (read : scanner.number start = .ok (token, after)) :
    scanner.cursor.position < after.cursor.position := by
  obtain ⟨last, eaten, result⟩ := bind_eq_ok_iff.mp read
  cases result
  refine Cursor.position_lt_of_eatWhile current ?_ eaten
  simp only [Cursor.isNumberByte, Option.any_eq_true] at digit ⊢
  obtain ⟨char, ascii, isDigit⟩ := digit
  exact ⟨char, ascii, by simp [isDigit]⟩

private theorem position_lt_of_mark {scanner after : Scanner buffer} {start : Nat} {token : Token}
    {mark : Mark} {width : Nat} (positive : 0 < width)
    (read : scanner.mark start mark width = .ok (token, after)) :
    scanner.cursor.position < after.cursor.position := by
  obtain ⟨middle, advanced, rest⟩ := bind_eq_ok_iff.mp read
  obtain ⟨byte, _, result⟩ := bind_eq_ok_iff.mp rest
  have first := Cursor.position_of_advanceBy advanced
  split at result
  · obtain ⟨last, stepped, result⟩ := bind_eq_ok_iff.mp result
    cases result
    have second := Cursor.position_of_advance stepped
    simp only [moveTo]
    omega
  · cases result
    simp only [moveTo]
    omega

private theorem position_lt_of_word {scanner after : Scanner buffer} {start : Nat} {token : Token}
    (inside : ¬ scanner.cursor.atEnd = true)
    (begins : scanner.cursor.atSeparator = .ok false)
    (read : scanner.word start = .ok (token, after)) :
    scanner.cursor.position < after.cursor.position := by
  obtain ⟨last, skipped, rest⟩ := bind_eq_ok_iff.mp read
  obtain ⟨text, _, rest⟩ := bind_eq_ok_iff.mp rest
  obtain ⟨kind, _, result⟩ := bind_eq_ok_iff.mp rest
  cases result
  exact Cursor.position_lt_of_skipWord inside begins skipped

/-- Every token takes at least one byte. The dispatch leaves to words only what does not
begin with a separator. -/
theorem position_lt_of_token {scanner after : Scanner buffer} {token : Token} {byte : UInt8}
    (inside : ¬ scanner.cursor.atEnd = true) (current : scanner.cursor.current = .ok byte)
    (solid : Cursor.isBlankByte byte = false) (read : scanner.token = .ok (token, after)) :
    scanner.cursor.position < after.cursor.position := by
  obtain ⟨same, again, rest⟩ := bind_eq_ok_iff.mp read
  cases current.symm.trans again
  split at rest
  · exact position_lt_of_string rest
  split at rest
  · exact position_lt_of_date rest
  split at rest
  · next digit => exact position_lt_of_number current digit rest
  obtain ⟨mark?, found, rest⟩ := bind_eq_ok_iff.mp rest
  split at rest
  · exact position_lt_of_mark (Cursor.width_pos_of_mark found) rest
  · exact position_lt_of_word inside (Cursor.atSeparator_of_no_mark current solid found) rest

/-- A scanner that has produced a token has less of the source before it. -/
theorem remaining_lt_of_next {scanner after : Scanner buffer} {token : Token}
    (produced : scanner.next = .ok (some token, after)) :
    after.cursor.remaining < scanner.cursor.remaining := by
  obtain ⟨first, skipped, rest⟩ := bind_eq_ok_iff.mp produced
  have trivia := Cursor.position_le_of_skipTrivia skipped
  split at rest
  · simp [pure, Except.pure] at rest
  · next inside =>
      obtain ⟨⟨read, last⟩, found, rest⟩ := bind_eq_ok_iff.mp rest
      cases rest
      rcases Cursor.stop_of_skipTrivia skipped with done | ⟨byte, current, solid, _⟩
      · exact absurd done inside
      · have later := position_lt_of_token inside current solid found
        have progress := Cursor.remaining_lt inside later
        simp only [Cursor.remaining] at progress ⊢
        omega

/-! ## Runs -/

/-- Runs to the end of the source and stores every token. -/
def run (scanner : Scanner buffer) : EStateM Fault TokenBuffer (Scanner buffer) :=
  match produced : scanner.next with
  | .error fault => throw fault
  | .ok (none, last) => return last
  | .ok (some token, after) => do
    TokenBuffer.push token
    after.run
termination_by scanner.cursor.remaining
decreasing_by exact remaining_lt_of_next produced

theorem run_done {scanner last : Scanner buffer} (produced : scanner.next = .ok (none, last)) :
    scanner.run = pure last := by
  rw [run]
  split
  · next failed => cases produced.symm.trans failed
  · next again => cases produced.symm.trans again; rfl
  · next again => cases produced.symm.trans again

theorem run_step {scanner after : Scanner buffer} {token : Token}
    (produced : scanner.next = .ok (some token, after)) :
    scanner.run = TokenBuffer.push token >>= fun _ => after.run := by
  rw [run]
  split
  · next failed => cases produced.symm.trans failed
  · next again => cases produced.symm.trans again
  · next again => cases produced.symm.trans again; rfl

/-- Asks for a number of tokens, also past the end. Each answer comes with the number
of diagnostics known by then. -/
def take (scanner : Scanner buffer) :
    Nat → Except Fault (List (Option Token × Nat) × Scanner buffer)
  | 0 => .ok ([], scanner)
  | count + 1 => do
    let (token, after) ← scanner.next
    let (rest, last) ← after.take count
    return ((token, after.diagnostics.size) :: rest, last)

end Scanner

/-! ## Whole sources -/

/-- The buffer of a source, with a fault for a source that is too large. -/
def sourceBuffer (source : String) : Except Fault SourceBuffer :=
  (SourceBuffer.ofText source).mapError .oversizedSource

/-- Stores the tokens of a source behind those a buffer already holds, and gives the
diagnostics of the source. -/
def scanInto (source : String) : EStateM Fault TokenBuffer (List Diagnostic) := do
  let buffer ← MonadExcept.ofExcept (sourceBuffer source)
  let last ← (Scanner.start buffer).run
  return last.diagnostics.toList

/-- The room set aside for the tokens of a source: one token for four bytes. -/
def estimatedTokens (source : String) : Nat :=
  source.utf8ByteSize / 4 + 1

/-- The tokens of a source and its diagnostics. -/
structure LexResult where
  tokens : TokenBuffer
  diagnostics : List Diagnostic

/-- Whether any token has a problem. -/
def LexResult.hasErrors (result : LexResult) : Bool :=
  !result.diagnostics.isEmpty

def lex (source : String) : Except Fault LexResult := do
  let room ← TokenBuffer.withCapacity (estimatedTokens source)
  match scanInto source room with
  | .ok diagnostics tokens => return ⟨tokens, diagnostics⟩
  | .error fault _ => throw fault

def tokenize (source : String) : Except Fault TokenBuffer :=
  (lex source).map (·.tokens)

end FormulaLexer
