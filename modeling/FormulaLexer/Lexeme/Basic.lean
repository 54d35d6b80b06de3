import FormulaLexer.Token.Basic

/-!
# Lexemes and diagnostics

A lexeme is what one token turns out to be: its kind, and what is wrong with it.
A problem never stops the scan; it is reported as a diagnostic with its place.
-/

set_option autoImplicit false

namespace FormulaLexer

/-- What can be wrong with a literal. -/
inductive Problem where
  | unterminatedString
  | unterminatedDate
  | malformedDate
  deriving DecidableEq

namespace Problem

def name : Problem → String
  | .unterminatedString => "UnterminatedString"
  | .unterminatedDate => "UnterminatedDate"
  | .malformedDate => "MalformedDate"

def message : Problem → String
  | .unterminatedString => "unterminated string literal"
  | .unterminatedDate => "unterminated date literal"
  | .malformedDate =>
    "malformed date literal, expected `#MM/DD/YYYY#` or `#MM/DD/YYYY HH:MM:SS#`"

end Problem

/-- The kind of a token, and the problem it has. -/
structure Lexeme where
  kind : TokenKind
  problem : Option Problem
  deriving DecidableEq

namespace Lexeme

def sound (kind : TokenKind) : Lexeme := ⟨kind, none⟩

/-- A string literal without its closing quote; it is a string all the same. -/
def unterminatedString : Lexeme := ⟨.string, some .unterminatedString⟩

def unterminatedDate : Lexeme := ⟨.error, some .unterminatedDate⟩

/-- The lexeme of a closed date literal, whose inside is a date text or not. -/
def closedDate (valid : Bool) : Lexeme :=
  if valid then sound .date else ⟨.error, some .malformedDate⟩

end Lexeme

/-- A problem and its place in the source. -/
structure Diagnostic where
  span : Span
  problem : Problem
  deriving DecidableEq

namespace Diagnostic

def shift (diagnostic : Diagnostic) (distance : Nat) : Diagnostic :=
  ⟨diagnostic.span.shift distance, diagnostic.problem⟩

/-- The sentence of the problem, followed by its place. -/
def display (diagnostic : Diagnostic) : String :=
  diagnostic.problem.message ++ " at " ++ diagnostic.span.display

end Diagnostic

end FormulaLexer
