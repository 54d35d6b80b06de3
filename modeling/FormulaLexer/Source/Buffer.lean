import FormulaLexer.Span

/-!
# Source buffers

A source is held as its UTF-8 bytes followed by zeros. The zeros let a cursor that
stands at the end of the source look two bytes ahead, and they fill the buffer up
to a whole number of blocks.
-/

set_option autoImplicit false

namespace FormulaLexer

/-- The bytes of a source with padding behind them. -/
structure SourceBuffer where
  /-- Source bytes and padding. -/
  bytes : ByteArray
  /-- How many of the bytes belong to the source. -/
  length : Nat

namespace SourceBuffer

def blockSize : Nat := 64

/-- The least number of zeros behind the source. -/
def lookahead : Nat := 3

/-- The least whole number of blocks with room for a source and its lookahead. One byte
less than a block is added, and the low bits, which count the bytes of a block that was
begun, are cleared. -/
def paddedSize (length : Nat) : Nat :=
  ((length + lookahead + (blockSize - 1)).toUInt64 &&& ~~~(blockSize - 1).toUInt64).toNat

def zeros (count : Nat) : ByteArray :=
  ⟨Array.replicate count 0⟩

def pad (source : String) : ByteArray :=
  source.toUTF8 ++ zeros (paddedSize source.utf8ByteSize - source.utf8ByteSize)

/-- The buffer of a source whose offsets all fit. -/
def ofText (source : String) : Except RangeError SourceBuffer :=
  match Span.ofRange 0 source.utf8ByteSize with
  | .ok span => .ok ⟨pad source, span.stop⟩
  | .error error => .error error

def isEmpty (buffer : SourceBuffer) : Bool := buffer.length == 0

def sourceBytes (buffer : SourceBuffer) : ByteArray :=
  buffer.bytes.extract 0 buffer.length

def paddedLength (buffer : SourceBuffer) : Nat := buffer.bytes.size

def padding (buffer : SourceBuffer) : List UInt8 :=
  buffer.bytes.data.toList.drop buffer.length

/-! ## Rounding to blocks -/

/-- A word keeps its high bits when it is moved six places to the right and back. -/
theorem and_not_lowBits (word : BitVec 64) : word &&& ~~~63#64 = word >>> 6 <<< 6 := by
  have low : 63#64 = (BitVec.allOnes 6).setWidth 64 := by decide
  ext place inside
  rw [low, BitVec.getElem_and, BitVec.getElem_not, BitVec.getElem_setWidth,
    BitVec.getLsbD_allOnes, BitVec.getElem_shiftLeft]
  by_cases below : place < 6
  · simp only [below, decide_true, Bool.not_true, Bool.and_false, Bool.false_and]
  · have moved : 6 + (place - 6) = place := by omega
    simp [below, moved, inside]

/-- Clearing the low bits rounds a word down to a whole number of blocks. -/
theorem toNat_and_not_lowBits (word : UInt64) :
    (word &&& ~~~63).toNat = word.toNat / 64 * 64 := by
  have cleared := congrArg BitVec.toNat (and_not_lowBits word.toBitVec)
  have bound := word.toNat_lt
  rw [BitVec.toNat_shiftLeft, BitVec.toNat_ushiftRight, Nat.shiftRight_eq_div_pow,
    Nat.shiftLeft_eq, Nat.mod_eq_of_lt (by simp; omega)] at cleared
  exact cleared

/-- For a length that fits no sum overflows, so the padded size is the sum rounded down. -/
theorem paddedSize_eq {length : Nat} (fits : length ≤ maxOffset) :
    paddedSize length = (length + 66) / 64 * 64 := by
  have room : (length + lookahead + (blockSize - 1)).toUInt64.toNat = length + 66 := by
    simp only [maxOffset] at fits
    simp [lookahead, blockSize]
    omega
  have rounded := toNat_and_not_lowBits (length + lookahead + (blockSize - 1)).toUInt64
  rw [room] at rounded
  exact rounded

end SourceBuffer

end FormulaLexer
