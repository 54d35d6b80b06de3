/-!
# Offsets and faults

Byte offsets are natural numbers kept at or below `maxOffset`. An operation asked
to leave the range it is defined on answers with a `Fault` instead of a value.
-/

set_option autoImplicit false

namespace FormulaLexer

/-- The largest byte offset a token, span or cursor may carry. -/
def maxOffset : Nat := 0xFFFFFFFF

/-- Which end of a byte range does not fit the offset range, and its value. -/
inductive RangeError where
  | startTooLarge (offset : Nat)
  | stopTooLarge (offset : Nat)
  deriving DecidableEq

/-- Upper-case hexadecimal digits without leading zeros. -/
def upperHex (number : Nat) : String :=
  String.ofList ((Nat.toDigits 16 number).map Char.toUpper)

/-- The sentence shown for an end that does not fit. -/
def RangeError.message (error : RangeError) : String :=
  let describe (side : String) (offset : Nat) : String :=
    s!"span {side} {offset} (0x" ++ upperHex offset ++ ") exceeds u32::MAX (0x" ++
      upperHex maxOffset ++ ")"
  match error with
  | .startTooLarge offset => describe "start" offset
  | .stopTooLarge offset => describe "end" offset

/-- Reasons for which an operation on offsets, buffers or cursors has no result. -/
inductive Fault where
  /-- A byte was read at or past the end of the padded buffer. -/
  | readOutOfBounds (index : Nat)
  /-- A position would have passed `maxOffset`. -/
  | offsetOverflow (position : Nat)
  /-- A search was started behind the end of the source. -/
  | searchOutOfBounds (position : Nat)
  /-- A slice was asked for with its ends exchanged. -/
  | reversedSlice (start stop : Nat)
  /-- A slice was asked for that reaches into the padding. -/
  | sliceBeyondSource (stop length : Nat)
  /-- More room was asked for than storage can have. -/
  | capacityOverflow (capacity : Nat)
  /-- A token with its ends exchanged was stored. -/
  | reversedToken (start stop : Nat)
  /-- A token was asked for by an index the buffer does not hold. -/
  | noSuchToken (index : Nat)
  /-- The length of a span with its ends exchanged was asked for. -/
  | reversedSpan (start stop : Nat)
  /-- The source has offsets that do not fit. -/
  | oversizedSource (error : RangeError)
  /-- Bytes or a text were cut at offsets between which they have no slice. -/
  | noSlice (start stop : Nat)
  /-- A number left the range `0` to `limit` in which it is kept. -/
  | numberOverflow (limit : Nat)
  deriving DecidableEq

/-- The sentence a fault is shown with; most faults are shown without one. -/
def Fault.message? : Fault → Option String
  | .reversedToken start stop => some s!"token start {start} exceeds end {stop}"
  | .reversedSlice start stop => some s!"slice start {start} exceeds end {stop}"
  | .sliceBeyondSource stop length => some s!"slice end {stop} exceeds source length {length}"
  | _ => none

/-! ## Steps that may fail -/

/-- A step followed by another succeeds when both succeed, one after the other. -/
theorem bind_eq_ok_iff {ε α β : Type} {first : Except ε α} {second : α → Except ε β}
    {result : β} :
    (first >>= second) = .ok result ↔
      ∃ middle, first = .ok middle ∧ second middle = .ok result := by
  cases first with
  | error error => simp [bind, Except.bind]
  | ok middle => simp [bind, Except.bind]

theorem map_eq_ok_iff {ε α β : Type} {first : Except ε α} {change : α → β} {result : β} :
    first.map change = .ok result ↔ ∃ middle, first = .ok middle ∧ change middle = result := by
  cases first with
  | error error => simp [Except.map]
  | ok middle => simp [Except.map]

theorem map_eq_error_iff {ε α β : Type} {first : Except ε α} {change : α → β} {error : ε} :
    first.map change = .error error ↔ first = .error error := by
  cases first with
  | error found => simp [Except.map]
  | ok middle => simp [Except.map]

end FormulaLexer
