import FormulaLexer.Source.Buffer

/-!
# Cursors

A cursor is a position in a source buffer that only ever moves forward. Reading
behind the padding, moving past `maxOffset` and searching from behind the end of
the source are faults. The end of the source is told by position, so a zero byte
inside the source is ordinary text.
-/

set_option autoImplicit false

namespace FormulaLexer

/-- A position in a buffer. -/
structure Cursor (buffer : SourceBuffer) where
  position : Nat
  deriving DecidableEq

namespace Cursor

variable {buffer : SourceBuffer}

def start (buffer : SourceBuffer) : Cursor buffer := ⟨0⟩

def atEnd (cursor : Cursor buffer) : Bool :=
  buffer.length ≤ cursor.position

/-- The bytes of the source that lie ahead. -/
def remaining (cursor : Cursor buffer) : Nat :=
  buffer.length - cursor.position

/-! ## Reading -/

def byteAt (buffer : SourceBuffer) (offset : Nat) : Except Fault UInt8 :=
  if inside : offset < buffer.bytes.size then .ok buffer.bytes[offset]
  else .error (.readOutOfBounds offset)

def current (cursor : Cursor buffer) : Except Fault UInt8 :=
  byteAt buffer cursor.position

def peek (cursor : Cursor buffer) : Except Fault UInt8 :=
  byteAt buffer (cursor.position + 1)

def peekSecond (cursor : Cursor buffer) : Except Fault UInt8 :=
  byteAt buffer (cursor.position + 2)

/-- The text between two offsets of the source. Ends that cut a character give the
empty text. -/
def slice (buffer : SourceBuffer) (start stop : Nat) : Except Fault String :=
  if stop < start then .error (.reversedSlice start stop)
  else if buffer.length < stop then .error (.sliceBeyondSource stop buffer.length)
  else .ok ((String.fromUTF8? (buffer.bytes.extract start stop)).getD "")

def sliceFrom (cursor : Cursor buffer) (start : Nat) : Except Fault String :=
  slice buffer start cursor.position

/-! ## Moving -/

def advanceBy (cursor : Cursor buffer) (count : Nat) : Except Fault (Cursor buffer) :=
  if cursor.position + count ≤ maxOffset then .ok ⟨cursor.position + count⟩
  else .error (.offsetOverflow (cursor.position + count))

def advance (cursor : Cursor buffer) : Except Fault (Cursor buffer) :=
  cursor.advanceBy 1

/-- The number of bytes in the UTF-8 form of a character that starts with a byte. -/
def charWidth (byte : UInt8) : Nat :=
  if 0xC0 ≤ byte ∧ byte ≤ 0xDF then 2
  else if 0xE0 ≤ byte ∧ byte ≤ 0xEF then 3
  else if 0xF0 ≤ byte ∧ byte ≤ 0xF7 then 4
  else 1

def advanceChar (cursor : Cursor buffer) : Except Fault (Cursor buffer) :=
  match cursor.current with
  | .error fault => .error fault
  | .ok byte => cursor.advanceBy (charWidth byte)

/-- Moves past the bytes that satisfy a predicate. A predicate that holds of zero
runs through the padding and faults at its end. -/
def eatWhile (predicate : UInt8 → Bool) (cursor : Cursor buffer) :
    Except Fault (Cursor buffer) :=
  if inside : cursor.position < buffer.bytes.size then
    if predicate buffer.bytes[cursor.position] then
      if cursor.position + 1 ≤ maxOffset then eatWhile predicate ⟨cursor.position + 1⟩
      else .error (.offsetOverflow (cursor.position + 1))
    else .ok cursor
  else .error (.readOutOfBounds cursor.position)
termination_by buffer.bytes.size - cursor.position

/-- The first offset from `position` on, and before `limit`, that holds a byte. A search for a byte
is relied on for the first occurrence and for nothing else: the order in which bytes are looked at
plays no part. -/
def findByte? (bytes : ByteArray) (byte : UInt8) (limit position : Nat) : Option Nat :=
  if position < limit then
    if bytes[position]? = some byte then some position
    else findByte? bytes byte limit (position + 1)
  else none
termination_by limit - position

/-- Moves to the next occurrence of a byte in the source, the byte under the cursor
included; without one the cursor is put at the end of the source, wherever it stood.
Tells whether the byte was found. The search runs over a slice of the buffer, from the
cursor to the end of the source, and faults where there is no such slice. -/
def skipTo (byte : UInt8) (cursor : Cursor buffer) : Except Fault (Bool × Cursor buffer) :=
  if cursor.position ≤ buffer.length ∧ buffer.length ≤ buffer.bytes.size then
    match findByte? buffer.bytes byte buffer.length cursor.position with
    | some offset => (cursor.advanceBy (offset - cursor.position)).map (true, ·)
    | none => .ok (false, ⟨buffer.length⟩)
  else .error (.searchOutOfBounds cursor.position)

/-- Moves to the next line feed; without one the cursor is put at the end of the source. -/
def skipLine (cursor : Cursor buffer) : Except Fault (Cursor buffer) :=
  (cursor.skipTo '\n'.toUInt8).map fun (found, next) => if found then next else ⟨buffer.length⟩

/-! ## Runs, byte by byte -/

theorem eatWhile_stop {predicate : UInt8 → Bool} {cursor : Cursor buffer} {byte : UInt8}
    (read : cursor.current = .ok byte) (fails : predicate byte = false) :
    cursor.eatWhile predicate = .ok cursor := by
  unfold current byteAt at read
  split at read
  · next inside =>
      cases read
      rw [eatWhile, dif_pos inside, if_neg (by simp [fails])]
  · cases read

theorem eatWhile_step {predicate : UInt8 → Bool} {cursor next : Cursor buffer} {byte : UInt8}
    (read : cursor.current = .ok byte) (holds : predicate byte = true)
    (moved : cursor.advance = .ok next) :
    cursor.eatWhile predicate = next.eatWhile predicate := by
  unfold current byteAt at read
  unfold advance advanceBy at moved
  split at read
  · next inside =>
      cases read
      rw [eatWhile, dif_pos inside, if_pos holds]
      split at moved
      · next fits =>
          cases moved
          rw [if_pos fits]
      · cases moved
  · cases read

/-! ## Searches, byte by byte -/

theorem findByte?_here {bytes : ByteArray} {byte : UInt8} {limit position : Nat}
    (inside : position < limit) (here : bytes[position]? = some byte) :
    findByte? bytes byte limit position = some position := by
  rw [findByte?, if_pos inside, if_pos here]

/-- Bytes that are not the one looked for are passed over. -/
theorem findByte?_pass {bytes : ByteArray} {byte : UInt8} {limit position width : Nat}
    (inside : position + width ≤ limit)
    (absent : ∀ distance < width, bytes[position + distance]? ≠ some byte) :
    findByte? bytes byte limit position = findByte? bytes byte limit (position + width) := by
  induction width generalizing position with
  | zero => rfl
  | succ width ih =>
      have elsewhere : bytes[position]? ≠ some byte := absent 0 (Nat.zero_lt_succ width)
      have later : ∀ distance < width, bytes[position + 1 + distance]? ≠ some byte := by
        intro distance near
        rw [Nat.add_assoc, Nat.add_comm 1 distance]
        exact absent (distance + 1) (Nat.succ_lt_succ near)
      rw [findByte?, if_pos (by omega), if_neg elsewhere, ih (by omega) later, Nat.add_assoc,
        Nat.add_comm 1 width]

/-! ## Forward motion -/

theorem position_of_advanceBy {cursor next : Cursor buffer} {count : Nat}
    (moved : cursor.advanceBy count = .ok next) : next.position = cursor.position + count := by
  unfold advanceBy at moved
  split at moved
  · cases moved
    rfl
  · cases moved

theorem position_of_advance {cursor next : Cursor buffer}
    (moved : cursor.advance = .ok next) : next.position = cursor.position + 1 :=
  position_of_advanceBy moved

theorem charWidth_pos (byte : UInt8) : 0 < charWidth byte := by
  unfold charWidth
  (repeat' split) <;> decide

theorem position_lt_of_advanceChar {cursor next : Cursor buffer}
    (moved : cursor.advanceChar = .ok next) : cursor.position < next.position := by
  unfold advanceChar at moved
  split at moved
  · cases moved
  · next byte read =>
      have width := charWidth_pos byte
      have position := position_of_advanceBy moved
      omega

theorem position_le_of_eatWhile {predicate : UInt8 → Bool} {cursor next : Cursor buffer}
    (moved : cursor.eatWhile predicate = .ok next) : cursor.position ≤ next.position := by
  fun_induction eatWhile predicate cursor with
  | case1 cursor inside holds fits ih => exact Nat.le_of_succ_le (ih moved)
  | case2 => cases moved
  | case3 => cases moved; exact Nat.le_refl _
  | case4 => cases moved

/-- A run that begins under the cursor takes at least one byte. -/
theorem position_lt_of_eatWhile {predicate : UInt8 → Bool} {cursor next : Cursor buffer}
    {byte : UInt8} (read : cursor.current = .ok byte) (holds : predicate byte = true)
    (moved : cursor.eatWhile predicate = .ok next) : cursor.position < next.position := by
  unfold current byteAt at read
  split at read
  · next inside =>
      cases read
      rw [eatWhile, dif_pos inside, if_pos holds] at moved
      split at moved
      · exact position_le_of_eatWhile moved
      · cases moved
  · cases read

theorem findByte?_bounds {bytes : ByteArray} {byte : UInt8} {limit position offset : Nat}
    (found : findByte? bytes byte limit position = some offset) :
    position ≤ offset ∧ offset < limit := by
  fun_induction findByte? bytes byte limit position with
  | case1 position inside here =>
      cases found
      exact ⟨Nat.le_refl _, inside⟩
  | case2 position inside elsewhere ih =>
      have bounds := ih found
      omega
  | case3 => cases found

/-- A search finds a byte between the cursor and the end of the source, or goes to the end. -/
theorem skipTo_cases {byte : UInt8} {cursor next : Cursor buffer} {found : Bool}
    (moved : cursor.skipTo byte = .ok (found, next)) :
    cursor.position ≤ buffer.length ∧
      (found = true ∧ cursor.position ≤ next.position ∧ next.position < buffer.length ∨
        found = false ∧ next = ⟨buffer.length⟩) := by
  unfold skipTo at moved
  split at moved
  · next inside =>
      refine ⟨inside.1, ?_⟩
      split at moved
      · next offset located =>
          obtain ⟨reached, advanced, same⟩ := map_eq_ok_iff.mp moved
          cases same
          have bounds := findByte?_bounds located
          have position := position_of_advanceBy advanced
          exact .inl ⟨rfl, by omega, by omega⟩
      · cases moved
        exact .inr ⟨rfl, rfl⟩
  · cases moved

/-- A search never moves backwards and never leaves the source. -/
theorem position_of_skipTo {byte : UInt8} {cursor next : Cursor buffer} {found : Bool}
    (moved : cursor.skipTo byte = .ok (found, next)) :
    cursor.position ≤ next.position ∧ next.position ≤ buffer.length := by
  obtain ⟨inside, ⟨_, forward, within⟩ | ⟨_, rfl⟩⟩ := skipTo_cases moved
  · exact ⟨forward, Nat.le_of_lt within⟩
  · exact ⟨inside, Nat.le_refl _⟩

/-- A byte that was found lies inside the source. -/
theorem position_lt_of_found {byte : UInt8} {cursor next : Cursor buffer}
    (moved : cursor.skipTo byte = .ok (true, next)) : next.position < buffer.length := by
  obtain ⟨_, ⟨_, _, within⟩ | ⟨missing, _⟩⟩ := skipTo_cases moved
  · exact within
  · cases missing

/-- A search for a byte that is not under the cursor moves, unless the source has ended. -/
theorem position_lt_of_skipTo {byte : UInt8} {cursor next : Cursor buffer} {found : Bool}
    (inside : cursor.position < buffer.length)
    (elsewhere : buffer.bytes[cursor.position]? ≠ some byte)
    (moved : cursor.skipTo byte = .ok (found, next)) : cursor.position < next.position := by
  unfold skipTo at moved
  split at moved
  · rw [findByte?, if_pos inside, if_neg elsewhere] at moved
    split at moved
    · next offset located =>
        obtain ⟨reached, advanced, same⟩ := map_eq_ok_iff.mp moved
        cases same
        have bounds := findByte?_bounds located
        have position := position_of_advanceBy advanced
        omega
    · cases moved
      exact inside
  · cases moved

/-- Going to the next line is a search, whether or not there is one. -/
theorem skipTo_of_skipLine {cursor next : Cursor buffer} (moved : cursor.skipLine = .ok next) :
    ∃ found, cursor.skipTo '\n'.toUInt8 = .ok (found, next) := by
  obtain ⟨⟨found, reached⟩, searched, same⟩ := map_eq_ok_iff.mp moved
  obtain ⟨_, ⟨rfl, _⟩ | ⟨rfl, rfl⟩⟩ := skipTo_cases searched
  · cases same
    exact ⟨true, searched⟩
  · cases same
    exact ⟨false, searched⟩

/-- A line that does not begin with a line feed takes at least one byte. -/
theorem position_lt_of_skipLine {cursor next : Cursor buffer} {byte : UInt8}
    (inside : ¬ cursor.atEnd = true) (read : cursor.current = .ok byte)
    (differs : byte ≠ '\n'.toUInt8) (moved : cursor.skipLine = .ok next) :
    cursor.position < next.position := by
  simp only [atEnd, decide_eq_true_eq, Nat.not_le] at inside
  have elsewhere : buffer.bytes[cursor.position]? ≠ some '\n'.toUInt8 := by
    unfold current byteAt at read
    split at read
    · next bounded =>
        cases read
        rw [getElem?_pos buffer.bytes cursor.position bounded]
        simpa using differs
    · cases read
  obtain ⟨_, searched⟩ := skipTo_of_skipLine moved
  exact position_lt_of_skipTo inside elsewhere searched

end Cursor

end FormulaLexer
