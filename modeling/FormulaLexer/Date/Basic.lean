/-!
# Dates

A date of the formula language has a year, a month and a day, and may have a time
of day. The fields are plain numbers: nothing ties them to the calendar.
-/

set_option autoImplicit false

namespace FormulaLexer

/-- A decimal number with zeros in front up to a width; longer numbers keep all
their digits. -/
def zeroPadded (width number : Nat) : List Char :=
  let digits := Nat.toDigits 10 number
  List.replicate (width - digits.length) '0' ++ digits

structure ClockTime where
  hour : Nat
  minute : Nat
  second : Nat
  deriving DecidableEq

namespace ClockTime

def midnight : ClockTime := ⟨0, 0, 0⟩

/-- The characters of a time: two digits each, divided by colons. -/
def render (time : ClockTime) : List Char :=
  zeroPadded 2 time.hour ++ ':' :: zeroPadded 2 time.minute ++ ':' :: zeroPadded 2 time.second

def display (time : ClockTime) : String :=
  String.ofList time.render

end ClockTime

/-- A calendar date with an optional time of day. -/
structure Date where
  year : Nat
  month : Nat
  day : Nat
  time : Option ClockTime
  deriving DecidableEq

namespace Date

/-- The characters of the day alone: month, day and year, divided by slashes. -/
def renderDay (date : Date) : List Char :=
  zeroPadded 2 date.month ++ '/' :: zeroPadded 2 date.day ++ '/' :: zeroPadded 4 date.year

/-- The characters of a date, with the given character in front of a time. -/
def render (separator : Char) (date : Date) : List Char :=
  date.renderDay ++
    match date.time with
    | none => []
    | some time => separator :: time.render

/-- The text of a date, with a space in front of a time. -/
def display (date : Date) : String :=
  String.ofList (date.render ' ')

end Date

end FormulaLexer
