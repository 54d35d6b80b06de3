import Mathlib.Order.Bounds.Defs
import FormulaLexer.Proofs.CursorMoves

/-!
# Padded sources

The buffer of a source is as short as it can be: it is the least whole number of blocks that leaves
room for the source and three more bytes. A cursor that has not left the source therefore finds its
own byte and two more inside the buffer, and those that lie behind the source are zeros.
-/

set_option autoImplicit false

namespace FormulaLexer

open Grammar (byteLength)

/-- The byte of a source at an offset, zero from the end of the source on. -/
def byteOrZero (source : String) (offset : Nat) : UInt8 :=
  source.toUTF8.data.toList[offset]?.getD 0

namespace SourceBuffer

/-- What the buffer of a source holds, and what a cursor reads that has not left the source. -/
structure Padded (buffer : SourceBuffer) (source : String) : Prop where
  length : buffer.length = source.utf8ByteSize
  least : IsLeast {size | 64 ∣ size ∧ source.utf8ByteSize + 3 ≤ size} buffer.paddedLength
  contents : buffer.bytes.data.toList =
    source.toUTF8.data.toList ++ List.replicate (buffer.paddedLength - source.utf8ByteSize) 0
  reads : ∀ cursor : Cursor buffer, cursor.position ≤ source.utf8ByteSize →
    cursor.current = .ok (byteOrZero source cursor.position) ∧
      cursor.peek = .ok (byteOrZero source (cursor.position + 1)) ∧
      cursor.peekSecond = .ok (byteOrZero source (cursor.position + 2))
  behind : ∀ offset, source.utf8ByteSize ≤ offset → byteOrZero source offset = 0

/-- Rounding up goes to a whole number of blocks, and past no other that has the room. -/
theorem isLeast_paddedSize {length : Nat} (fits : length ≤ maxOffset) :
    IsLeast {size | 64 ∣ size ∧ length + 3 ≤ size} (paddedSize length) := by
  rw [paddedSize_eq fits]
  constructor
  · exact ⟨Nat.dvd_mul_left _ _, by omega⟩
  · rintro size ⟨⟨blocks, rfl⟩, room⟩
    omega

variable {buffer : SourceBuffer} {source : String}

private theorem contents_of_holds (holds : buffer.Holds source.toList) :
    buffer.bytes.data.toList = source.toUTF8.data.toList ++
      List.replicate (paddedSize source.utf8ByteSize - source.utf8ByteSize) 0 := by
  rw [holds.bytes, toList_pad, byteLength_toList, encode_toList]

private theorem paddedLength_of_holds (holds : buffer.Holds source.toList) :
    buffer.paddedLength = paddedSize source.utf8ByteSize := by
  have fits := holds.fits
  rw [byteLength_toList] at fits
  have room := lookahead_le_padding fits
  have size := congrArg List.length (contents_of_holds holds)
  rw [List.length_append, List.length_replicate, ← encode_toList, length_encode,
    byteLength_toList] at size
  calc buffer.paddedLength
      = source.utf8ByteSize + (paddedSize source.utf8ByteSize - source.utf8ByteSize) := size
    _ = paddedSize source.utf8ByteSize := by omega

/-- Every offset up to two bytes behind the source is inside the buffer. -/
theorem byteAt_eq_byteOrZero (holds : buffer.Holds source.toList) {offset : Nat}
    (near : offset ≤ source.utf8ByteSize + 2) :
    Cursor.byteAt buffer offset = .ok (byteOrZero source offset) := by
  have front : buffer.Holds ([] ++ source.toList) := holds
  rw [← byteLength_toList] at near
  have read := Cursor.byteAt_of_holds front offset near
  rw [byteLength_nil, Nat.zero_add, encode_toList] at read
  exact read

end SourceBuffer

/-- A source whose offsets fit has a buffer. Its size is the least multiple of 64 that leaves room
for the source and three bytes, and it holds the bytes of the source and zeros behind them. A cursor
that stands in the source or at its end reads its own byte and the next two, and reads a zero for
every one that lies behind the source. -/
theorem ofText_pads_source {source : String} (fits : source.utf8ByteSize ≤ maxOffset) :
    ∃ buffer, SourceBuffer.ofText source = .ok buffer ∧ buffer.Padded source := by
  obtain ⟨buffer, made, holds⟩ := SourceBuffer.ofText_eq_ok fits
  have size := SourceBuffer.paddedLength_of_holds holds
  refine ⟨buffer, made, ?_, ?_, ?_, ?_, ?_⟩
  · rw [holds.length, byteLength_toList]
  · rw [size]
    exact SourceBuffer.isLeast_paddedSize fits
  · rw [size]
    exact SourceBuffer.contents_of_holds holds
  · intro cursor inside
    refine ⟨?_, ?_, ?_⟩
    · exact SourceBuffer.byteAt_eq_byteOrZero holds (by omega)
    · exact SourceBuffer.byteAt_eq_byteOrZero holds (by omega)
    · exact SourceBuffer.byteAt_eq_byteOrZero holds (by omega)
  · intro offset outside
    rw [byteOrZero, List.getElem?_eq_none, Option.getD_none]
    rw [← encode_toList, length_encode, byteLength_toList]
    exact outside

/-- A source of 62 bytes that ends on a wide character and leaves no room for three zeros in its
block. -/
theorem ofText_pads_source_fullBlock :
    let source := String.ofList (List.replicate 60 'y') ++ "\u00e9"
    (source.utf8ByteSize = 62 ∧ source.utf8ByteSize ≤ maxOffset) ∧
      ∃ buffer, SourceBuffer.ofText source = .ok buffer ∧ buffer.Padded source := by
  intro source
  have size : source.utf8ByteSize = 62 := by decide +kernel
  have fits : source.utf8ByteSize ≤ maxOffset := by rw [size]; decide
  exact ⟨⟨size, fits⟩, ofText_pads_source fits⟩

end FormulaLexer
