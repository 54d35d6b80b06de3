import FormulaLexer.Span
import FormulaLexer.Token.Kind

/-!
# Tokens

A token records where its text stands in the source and what it is. The text
itself stays in the source.
-/

set_option autoImplicit false

namespace FormulaLexer

/-- The bytes from `start` up to `stop` form one token of the given kind. -/
structure Token where
  start : Nat
  stop : Nat
  kind : TokenKind
  deriving DecidableEq

namespace Token

def span (token : Token) : Span := ⟨token.start, token.stop⟩

/-- The token moved to the right by `distance` bytes. -/
def shift (token : Token) (distance : Nat) : Token :=
  ⟨token.start + distance, token.stop + distance, token.kind⟩

def display (token : Token) : String :=
  token.kind.name ++ " @ " ++ token.span.display

end Token

end FormulaLexer
