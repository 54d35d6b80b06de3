import FormulaLexer.Text.ExtendingMark
import FormulaLexer.Text.Printable

/-!
# Escaped text

The form in which token texts are listed: between quotes, with escapes for quotes,
backslashes and every character that would not show, or not show on its own.
-/

set_option autoImplicit false

namespace FormulaLexer.Text

/-- An escape by code point: lower-case hexadecimal digits between braces. -/
def codePointEscape (char : Char) : List Char :=
  ['\\', 'u', '\x7b'] ++ Nat.toDigits 16 char.toNat ++ ['\x7d']

/-- The characters that stand for one character between quotes. -/
def escapeChar (char : Char) : List Char :=
  if char = '\x00' then ['\\', '0']
  else if char = '\t' then ['\\', 't']
  else if char = '\r' then ['\\', 'r']
  else if char = '\n' then ['\\', 'n']
  else if char = '"' then ['\\', '"']
  else if char = '\\' then ['\\', '\\']
  else if isExtendingMark char || !isPrintable char then codePointEscape char
  else [char]

def escaped (text : String) : String :=
  String.ofList ('"' :: text.toList.flatMap escapeChar ++ ['"'])

end FormulaLexer.Text
