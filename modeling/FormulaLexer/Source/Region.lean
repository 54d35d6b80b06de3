import FormulaLexer.Token.Basic

/-!
# Regions of a source

The text a token covers. Offsets are positions in the UTF-8 form of the source, and
only those between characters are positions of the text.
-/

set_option autoImplicit false

namespace FormulaLexer

/-- The text between two byte offsets, if both fall between characters of the
source and do not exchange their order. -/
def region? (source : String) (start stop : Nat) : Option String :=
  match source.pos? ⟨start⟩, source.pos? ⟨stop⟩ with
  | some first, some last => if first ≤ last then some (source.extract first last) else none
  | _, _ => none

/-- The text a token covers, empty when its ends are no region of the source. -/
def Token.text (source : String) (token : Token) : String :=
  (region? source token.start token.stop).getD ""

end FormulaLexer
