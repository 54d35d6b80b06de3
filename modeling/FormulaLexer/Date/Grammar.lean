import FormulaLexer.Date.Basic

/-!
# Date texts

The text of a date is `NN/NN/NNNN`, read as month, day and year, and may go on
with one blank and `NN:NN:NN`. Readers take what they need from the front of a
list of characters and hand back the rest; a date text leaves no rest.
-/

set_option autoImplicit false

namespace FormulaLexer.Date

def digit? (char : Char) : Option Nat :=
  if char.isDigit then some (char.toNat - '0'.toNat) else none

/-- Reads exactly `count` digits after digits worth `value`. -/
def digits? (value : Nat) : Nat → List Char → Option (Nat × List Char)
  | 0, rest => some (value, rest)
  | count + 1, char :: rest =>
    match digit? char with
    | some digit => digits? (10 * value + digit) count rest
    | none => none
  | _ + 1, [] => none

def mark? (expected : Char) : List Char → Option (List Char)
  | char :: rest => if char = expected then some rest else none
  | [] => none

/-- Blanks that may divide day and time: space, tab, line feed, vertical tab, form
feed and carriage return. -/
def isDivider (char : Char) : Bool :=
  char == ' ' || (9 ≤ char.toNat && char.toNat ≤ 13)

def clockTime? (chars : List Char) : Option (ClockTime × List Char) := do
  let (hour, rest) ← digits? 0 2 chars
  let rest ← mark? ':' rest
  let (minute, rest) ← digits? 0 2 rest
  let rest ← mark? ':' rest
  let (second, rest) ← digits? 0 2 rest
  return (⟨hour, minute, second⟩, rest)

/-- Reads `NN/NN/NNNN` as a date without a time. -/
def day? (chars : List Char) : Option (Date × List Char) := do
  let (month, rest) ← digits? 0 2 chars
  let rest ← mark? '/' rest
  let (day, rest) ← digits? 0 2 rest
  let rest ← mark? '/' rest
  let (year, rest) ← digits? 0 4 rest
  return (⟨year, month, day, none⟩, rest)

/-- The date written by a list of characters, all of which must be used. -/
def ofChars? (chars : List Char) : Option Date :=
  match day? chars with
  | some (date, []) => some date
  | some (date, divider :: rest) =>
    if isDivider divider then
      match clockTime? rest with
      | some (time, []) => some { date with time := some time }
      | _ => none
    else none
  | none => none

def ofText? (text : String) : Option Date :=
  ofChars? text.toList

def isDateText (text : String) : Bool :=
  (ofText? text).isSome

end FormulaLexer.Date
