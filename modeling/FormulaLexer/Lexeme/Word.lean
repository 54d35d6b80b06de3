import FormulaLexer.Operator
import FormulaLexer.Token.Kind

/-!
# Words

A word is an operator if it spells one, a keyword if it is reserved, and an
identifier otherwise. ASCII letter case plays no part.
-/

set_option autoImplicit false

namespace FormulaLexer

/-- The reserved words of a number of bytes. -/
def keywordsOfLength : Nat → List (String × TokenKind)
  | 2 => [("as", .keywordAs)]
  | 3 => [("dim", .keywordDim), ("new", .keywordNew), ("not", .keywordNot)]
  | 5 => [("class", .keywordClass)]
  | _ => []

/-- The kind of a reserved word. A text is compared only with the reserved words of its own length,
and only if it begins with a letter. -/
def keywordKind? (text : String) : Option TokenKind :=
  if text.toList.head?.any Char.isAlpha then
    let sameLength := keywordsOfLength text.utf8ByteSize
    (sameLength.find? fun entry => Text.equalIgnoringAsciiCase text entry.1).map (·.2)
  else none

def wordKind (text : String) : TokenKind :=
  if Operator.isSpelling text then .operator
  else (keywordKind? text).getD .identifier

end FormulaLexer
