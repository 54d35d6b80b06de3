/-!
# Ranges of code points

Character properties are held as lists of ranges with both ends included, in
increasing order and without overlap.
-/

set_option autoImplicit false

namespace FormulaLexer.Text

def inRanges (ranges : List (Nat × Nat)) (code : Nat) : Bool :=
  ranges.any fun range => range.1 ≤ code && code ≤ range.2

end FormulaLexer.Text
