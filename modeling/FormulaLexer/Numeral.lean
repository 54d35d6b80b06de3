/-!
# Numerals

The texts read as floating-point numbers: an optional sign, then decimal digits
with an optional point on either side and an optional exponent, or one of the
words `inf`, `infinity` and `nan` in any case. The whole text must be used.
-/

set_option autoImplicit false

namespace FormulaLexer

/-- Why a text is not a numeral. -/
inductive NumeralError where
  | empty
  | invalid
  deriving DecidableEq

def NumeralError.message : NumeralError → String
  | .empty => "cannot parse float from empty string"
  | .invalid => "invalid float literal"

/-- What a numeral denotes, before it is rounded: `significand · 10 ^ exponent`
with a sign, an infinity, or no number. -/
inductive Numeral where
  | finite (negative : Bool) (significand : Nat) (exponent : Int)
  | infinite (negative : Bool)
  | notANumber
  deriving DecidableEq

namespace Numeral

def digitsValue (digits : List Char) : Nat :=
  digits.foldl (fun value digit => 10 * value + (digit.toNat - '0'.toNat)) 0

/-- A sign in front of a list of characters, `true` for minus, and the rest. -/
def splitSign : List Char → Bool × List Char
  | '-' :: rest => (true, rest)
  | '+' :: rest => (false, rest)
  | chars => (false, chars)

/-- The value of an exponent part, zero for an absent one. -/
def exponent? : List Char → Option Int
  | [] => some 0
  | mark :: rest =>
    if mark = 'e' ∨ mark = 'E' then
      let (negative, digits) := splitSign rest
      if digits.isEmpty || !digits.all Char.isDigit then none
      else
        let size : Int := digitsValue digits
        some (if negative then -size else size)
    else none

/-- The digits after a point at the front of a list, and what follows them. -/
def splitFraction : List Char → List Char × List Char
  | '.' :: rest => (rest.takeWhile Char.isDigit, rest.dropWhile Char.isDigit)
  | chars => ([], chars)

/-- Reads digits, point and exponent. A digit must stand before or after the point. -/
def decimal? (negative : Bool) (chars : List Char) : Option Numeral :=
  let whole := chars.takeWhile Char.isDigit
  let (fraction, rest) := splitFraction (chars.dropWhile Char.isDigit)
  if whole.isEmpty && fraction.isEmpty then none
  else
    (exponent? rest).map fun exponent =>
      .finite negative (digitsValue (whole ++ fraction)) (exponent - fraction.length)

/-- Reads the words for values that are not decimal numbers. -/
def word? (negative : Bool) (chars : List Char) : Option Numeral :=
  match String.ofList (chars.map Char.toLower) with
  | "inf" => some (.infinite negative)
  | "infinity" => some (.infinite negative)
  | "nan" => some .notANumber
  | _ => none

def ofText (text : String) : Except NumeralError Numeral :=
  if text.isEmpty then .error .empty
  else
    let (negative, chars) := splitSign text.toList
    match (decimal? negative chars).or (word? negative chars) with
    | some numeral => .ok numeral
    | none => .error .invalid

def digitCount (number : Nat) : Nat :=
  (Nat.toDigits 10 number).length

/-- The double nearest to `significand · 10 ^ exponent`. Numbers that are certain
to be infinite or zero are told by their size, before any power is computed. -/
def magnitude (significand : Nat) (exponent : Int) : Float :=
  if significand = 0 then 0.0
  else
    let size := exponent + digitCount significand
    if 310 < size then 1.0 / 0.0
    else if size < -330 then 0.0
    else Float.ofScientific significand (exponent < 0) exponent.natAbs

/-- The double a numeral denotes; the sign is kept on zeros and infinities. -/
def toFloat : Numeral → Float
  | .finite negative significand exponent =>
    let size := magnitude significand exponent
    if negative then -size else size
  | .infinite negative => if negative then -(1.0 / 0.0) else 1.0 / 0.0
  | .notANumber => 0.0 / 0.0

end Numeral

end FormulaLexer
