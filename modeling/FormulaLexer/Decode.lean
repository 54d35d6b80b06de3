import FormulaLexer.Date.Grammar
import FormulaLexer.Lexeme.Mark
import FormulaLexer.Numeral
import FormulaLexer.Operator
import FormulaLexer.Source.Region
import FormulaLexer.Symbol.Basic
import FormulaLexer.Text.Quoted
import FormulaLexer.Token.Buffer

/-!
# Decoding

Tokens carry no values. A value is read from the text of its token when it is
asked for, through a view that joins a text with a token buffer. The buffer need not
come from that text: a token that is no region of it is read as an empty text.
-/

set_option autoImplicit false

namespace FormulaLexer

/-- Why a token has no value of the kind asked for. -/
inductive DecodeError where
  | indexOutOfRange (index size : Nat)
  | unexpectedKind (expected found : TokenKind)
  | malformedNumber (text : String) (cause : NumeralError)
  | malformedDate (text : String)
  | unterminatedString
  deriving DecidableEq

namespace DecodeError

def name : DecodeError → String
  | .indexOutOfRange .. => "IndexOutOfRange"
  | .unexpectedKind .. => "UnexpectedKind"
  | .malformedNumber .. => "MalformedNumber"
  | .malformedDate .. => "MalformedDate"
  | .unterminatedString => "UnterminatedString"

def message : DecodeError → String
  | .indexOutOfRange index size =>
    s!"token index {index} out of range (buffer holds {size} tokens)"
  | .unexpectedKind expected found =>
    "expected " ++ expected.description ++ " token, found " ++ found.description
  | .malformedNumber text _ => "malformed number `" ++ text ++ "`"
  | .malformedDate text => "malformed date literal `" ++ text ++ "`"
  | .unterminatedString => "unterminated string literal"

end DecodeError

/-! ## Literals -/

def decodeString (raw : String) : Except DecodeError Text.Quoted.Contents :=
  match Text.Quoted.decode? raw.toList with
  | some contents => .ok contents
  | none => .error .unterminatedString

def decodeNumber (raw : String) : Except DecodeError Float :=
  match Numeral.ofText raw with
  | .ok numeral => .ok numeral.toFloat
  | .error cause => .error (.malformedNumber raw cause)

/-- What stands between the two marks of a date literal. -/
def dateInside? : List Char → Option (List Char)
  | '#' :: rest => if rest.getLast? = some '#' then some rest.dropLast else none
  | _ => none

def decodeDate (raw : String) : Except DecodeError Date :=
  match (dateInside? raw.toList).bind Date.ofChars? with
  | some date => .ok date
  | none => .error (.malformedDate raw)

/-! ## Views -/

/-- A text together with tokens that are read from it. -/
structure TokenView where
  source : String
  tokens : TokenBuffer

namespace TokenView

def size (view : TokenView) : Nat := view.tokens.size

def isEmpty (view : TokenView) : Bool := view.tokens.isEmpty

/-- The tokens with their texts, in order. -/
def entries (view : TokenView) : List (Token × String) :=
  view.tokens.tokens.toList.map fun token => (token, token.text view.source)

def token (view : TokenView) (index : Nat) : Except DecodeError Token :=
  match view.tokens.get? index with
  | some token => .ok token
  | none => .error (.indexOutOfRange index view.size)

/-- The token at an index, which must have the given kind. -/
def tokenOfKind (view : TokenView) (expected : TokenKind) (index : Nat) :
    Except DecodeError Token := do
  let token ← view.token index
  if token.kind = expected then return token
  else .error (.unexpectedKind expected token.kind)

def rawText (view : TokenView) (index : Nat) : Except DecodeError String := do
  return (← view.token index).text view.source

def string (view : TokenView) (index : Nat) : Except DecodeError Text.Quoted.Contents := do
  decodeString ((← view.tokenOfKind .string index).text view.source)

def number (view : TokenView) (index : Nat) : Except DecodeError Float := do
  decodeNumber ((← view.tokenOfKind .number index).text view.source)

def date (view : TokenView) (index : Nat) : Except DecodeError Date := do
  decodeDate ((← view.tokenOfKind .date index).text view.source)

/-- The token at an index, of whatever kind, read as a name. -/
def symbol (view : TokenView) (index : Nat) : Except DecodeError Symbol := do
  return Symbol.ofText (← view.rawText index)

def startsWithSeparator (view : TokenView) (index : Nat) : Except DecodeError Bool := do
  return FormulaLexer.startsWithSeparator (← view.rawText index)

/-- The token at an index, of whatever kind, read as an operator. -/
def operator (view : TokenView) (index : Nat) : Except DecodeError Operator := do
  return Operator.ofSpelling (← view.rawText index)

end TokenView

end FormulaLexer
