import FormulaLexer.Text.AsciiCase

/-!
# Binary operators

The nineteen binary operators with their spellings and binding powers, and the
value `invalid` for text that spells none of them. Spellings are read without
regard to ASCII letter case.
-/

set_option autoImplicit false

namespace FormulaLexer

/-- How tightly an infix operator holds its left and its right operand. -/
structure BindingPower where
  left : Nat
  right : Nat
  deriving DecidableEq

namespace BindingPower

/-- The power of anything that is not an operator. -/
def none : BindingPower := ⟨0, 0⟩

/-- A chain of operators groups to the left when the right side binds tighter. -/
def isLeftAssociative (power : BindingPower) : Bool :=
  power.left < power.right

end BindingPower

/-- A binary operator, or `invalid` for text that is not one. -/
inductive Operator where
  | eq | ne | lt | gt | lte | gte
  | concat | add | sub | mul | div | pow
  | membership | or | orElse | and | andAlso
  | bitOr | bitAnd
  | invalid
  deriving DecidableEq

namespace Operator

def all : List Operator :=
  [.eq, .ne, .lt, .gt, .lte, .gte, .concat, .add, .sub, .mul, .div, .pow,
    .membership, .or, .orElse, .and, .andAlso, .bitOr, .bitAnd]

/-- The canonical spelling, empty for `invalid`. -/
def spelling : Operator → String
  | .eq => "="
  | .ne => "<>"
  | .lt => "<"
  | .gt => ">"
  | .lte => "<="
  | .gte => ">="
  | .concat => "&"
  | .add => "+"
  | .sub => "-"
  | .mul => "*"
  | .div => "/"
  | .pow => "^"
  | .membership => "in"
  | .or => "or"
  | .orElse => "orelse"
  | .and => "and"
  | .andAlso => "andalso"
  | .bitOr => "bitor"
  | .bitAnd => "bitand"
  | .invalid => ""

def name : Operator → String
  | .eq => "Eq"
  | .ne => "Ne"
  | .lt => "Lt"
  | .gt => "Gt"
  | .lte => "Lte"
  | .gte => "Gte"
  | .concat => "Concat"
  | .add => "Add"
  | .sub => "Sub"
  | .mul => "Mul"
  | .div => "Div"
  | .pow => "Pow"
  | .membership => "In"
  | .or => "Or"
  | .orElse => "OrElse"
  | .and => "And"
  | .andAlso => "AndAlso"
  | .bitOr => "BitOr"
  | .bitAnd => "BitAnd"
  | .invalid => "Invalid"

/-- The operator, `invalid` included, that is stored under a name. -/
def ofName? (text : String) : Option Operator :=
  (Operator.invalid :: all).find? (·.name == text)

def display : Operator → String
  | .invalid => "<invalid operator>"
  | operator => operator.spelling

/-- The most bytes that a spelling has. -/
def maxSpellingBytes : Nat := 7

/-- The operators under their spellings. The table is relied on for looking up a key and for nothing
else: no two operators have the same spelling, so the order of the entries plays no part. -/
def spellings : List (String × Operator) :=
  all.map fun operator => (operator.spelling, operator)

/-- The operator spelled by a text, `invalid` if there is none. Texts too long for a spelling, and
texts outside ASCII, are refused before any spelling is compared. -/
def ofSpelling (text : String) : Operator :=
  if text.isEmpty || maxSpellingBytes < text.utf8ByteSize || !text.toList.all Text.isAscii then
    .invalid
  else (spellings.lookup (String.ofList (Text.asciiFold text))).getD .invalid

def isSpelling (text : String) : Bool :=
  ofSpelling text != .invalid

/-- Higher powers bind tighter; comparison for equality groups to the right. -/
def bindingPower : Operator → BindingPower
  | .membership => ⟨1, 2⟩
  | .or | .orElse => ⟨3, 4⟩
  | .and | .andAlso => ⟨5, 6⟩
  | .bitOr => ⟨7, 8⟩
  | .bitAnd => ⟨9, 10⟩
  | .lt | .gt | .lte | .gte => ⟨11, 12⟩
  | .eq | .ne => ⟨14, 13⟩
  | .concat | .add | .sub => ⟨15, 16⟩
  | .mul | .div => ⟨17, 18⟩
  | .pow => ⟨19, 20⟩
  | .invalid => .none

end Operator

end FormulaLexer
