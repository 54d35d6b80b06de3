/-!
# Interchange values

Values as they are exchanged with other programs: the data model of JSON, with
integers kept apart from other numbers.
-/

set_option autoImplicit false

namespace FormulaLexer

/-- A value for exchange. Nothing is read from a number that is no integer, so only
its presence is kept. -/
inductive Value where
  | null
  | bool (value : Bool)
  | integer (value : Int)
  | fraction
  | text (value : String)
  | list (items : List Value)
  | object (fields : List (String × Value))
  deriving Inhabited

namespace Value

def natural (number : Nat) : Value := .integer number

/-- The natural number up to a bound that a value holds. -/
def natural? (bound : Nat) : Value → Option Nat
  | .integer (.ofNat number) => if number ≤ bound then some number else none
  | _ => none

def text? : Value → Option String
  | .text value => some value
  | _ => none

def list? : Value → Option (List Value)
  | .list items => some items
  | _ => none

/-- The fields of a record, in the order of their names. An object may leave fields out
and may have others; a list gives all fields in order and nothing else. -/
def fields? (names : List String) : Value → Option (List (Option Value))
  | .object fields => some (names.map fun name => List.lookup name fields)
  | .list items => if items.length = names.length then some (items.map some) else none
  | _ => none

/-- The name of an alternative: a text, or an object with that one name and no data. -/
def alternative? : Value → Option String
  | .text name => some name
  | .object [(name, .null)] => some name
  | _ => none

end Value

end FormulaLexer
