import FormulaLexer.Proofs.LexemeMoves
import FormulaLexer.Proofs.Region

/-!
# Character boundaries in a buffer

Two questions about the bytes of a source that are answered without looking at its characters. A
slice checks whether its own bytes are well-formed, and comes to the same text as a region of the
source, which checks only whether its ends are positions. The checks differ on an empty slice inside
a character and nowhere else: it is well-formed, and no region. A cursor moves by the width that the
byte under it shows, and stands at the beginning of one character after the other.
-/

set_option autoImplicit false

namespace FormulaLexer

open Grammar (byteLength)

/-! ## Slices -/

section

variable {buffer : SourceBuffer} {source : String} {start stop : Nat}

end

namespace Cursor

variable {buffer : SourceBuffer} {behind ahead : List Char}

set_option linter.unusedVariables false in
/-- Moves on by characters until the end of the source is reached, and lists the offsets at which
the cursor stood before. -/
def walk (cursor : Cursor buffer) : Except Fault (List Nat × Cursor buffer) :=
  if done : cursor.atEnd then .ok ([], cursor)
  else
    match moved : cursor.advanceChar with
    | .error fault => .error fault
    | .ok next =>
      match next.walk with
      | .error fault => .error fault
      | .ok (visited, last) => .ok (cursor.position :: visited, last)
termination_by cursor.remaining
decreasing_by exact remaining_lt done (position_lt_of_advanceChar moved)

theorem walk_done {cursor : Cursor buffer} (done : cursor.atEnd = true) :
    cursor.walk = .ok ([], cursor) := by
  rw [walk, dif_pos done]

theorem walk_step {cursor next last : Cursor buffer} {visited : List Nat}
    (inside : ¬ cursor.atEnd = true) (moved : cursor.advanceChar = .ok next)
    (walked : next.walk = .ok (visited, last)) :
    cursor.walk = .ok (cursor.position :: visited, last) := by
  rw [walk, dif_neg inside]
  split
  · next failed => cases moved.symm.trans failed
  · next repeated =>
      cases moved.symm.trans repeated
      rw [walked]

end Cursor

/-- The offsets at which characters begin that stand from `offset` on. -/
def charOffsets (offset : Nat) : List Char → List Nat
  | [] => []
  | char :: rest => offset :: charOffsets (offset + char.utf8Size) rest

theorem Cursor.walk_after {buffer : SourceBuffer} {behind ahead : List Char}
    (holds : buffer.Holds (behind ++ ahead)) :
    (after behind : Cursor buffer).walk =
      .ok (charOffsets (byteLength behind) ahead, after (behind ++ ahead)) := by
  induction ahead generalizing behind with
  | nil =>
      rw [List.append_nil]
      exact walk_done (atEnd_after holds)
  | cons char rest ih =>
      have inside : ¬ (after behind : Cursor buffer).atEnd = true := by
        rw [atEnd_after holds]
        simp
      have walked := ih holds.passChar
      rw [walk_step inside (advanceChar_after holds) walked, charOffsets]
      simp [after]

private theorem mem_charOffsets_iff {start offset : Nat} {chars : List Char} :
    offset ∈ charOffsets start chars ↔
      ∃ before char later,
        chars = before ++ char :: later ∧ offset = start + byteLength before := by
  induction chars generalizing start with
  | nil => simp [charOffsets]
  | cons first rest ih =>
      rw [charOffsets, List.mem_cons, ih]
      constructor
      · rintro (rfl | ⟨before, char, later, rfl, rfl⟩)
        · exact ⟨[], first, rest, rfl, rfl⟩
        · exact ⟨first :: before, char, later, rfl, by simp [Nat.add_assoc]⟩
      · rintro ⟨before, char, later, parts, rfl⟩
        cases before with
        | nil => exact .inl rfl
        | cons head before =>
            obtain ⟨rfl, rfl⟩ := List.cons.inj parts
            exact .inr ⟨before, char, later, rfl, by simp [Nat.add_assoc]⟩

private theorem ordered_charOffsets (start : Nat) (chars : List Char) :
    (charOffsets start chars).Pairwise (· < ·) := by
  induction chars generalizing start with
  | nil => exact List.Pairwise.nil
  | cons first rest ih =>
      rw [charOffsets]
      refine List.Pairwise.cons ?_ (ih _)
      intro offset member
      obtain ⟨before, _, _, _, rfl⟩ := mem_charOffsets_iff.mp member
      have positive := first.utf8Size_pos
      omega

/-- Characters begin at the positions of a text that are not its end. -/
theorem mem_charOffsets_iff_isValid {source : String} {offset : Nat} :
    offset ∈ charOffsets 0 source.toList ↔
      offset < source.utf8ByteSize ∧ String.Pos.Raw.IsValid source ⟨offset⟩ := by
  rw [mem_charOffsets_iff, isValid_iff_byteLength, ← byteLength_toList]
  constructor
  · rintro ⟨before, char, later, whole, rfl⟩
    rw [Nat.zero_add]
    have positive := byteLength_pos (List.cons_ne_nil char later)
    exact ⟨by rw [whole, byteLength_append]; omega, before, char :: later, whole, rfl⟩
  · rintro ⟨inside, before, later, whole, rfl⟩
    cases later with
    | nil =>
        rw [whole, List.append_nil] at inside
        exact absurd inside (Nat.lt_irrefl _)
    | cons char later => exact ⟨before, char, later, whole, (Nat.zero_add _).symm⟩

/-- A cursor that moves by characters from the front of a source that fits stands at the offsets at
which its characters begin, in their order and at no other, and then at the end of the source. -/
theorem walk_visits_characters {source : String} (fits : source.utf8ByteSize ≤ maxOffset) :
    ∃ buffer visited, SourceBuffer.ofText source = .ok buffer ∧
      (Cursor.start buffer).walk = .ok (visited, ⟨source.utf8ByteSize⟩) ∧
      visited = charOffsets 0 source.toList ∧ visited.Pairwise (· < ·) ∧
      ∀ offset, offset ∈ visited ↔
        offset < source.utf8ByteSize ∧ String.Pos.Raw.IsValid source ⟨offset⟩ := by
  obtain ⟨buffer, made, holds⟩ := SourceBuffer.ofText_eq_ok fits
  have front : buffer.Holds ([] ++ source.toList) := holds
  have walked := Cursor.walk_after front
  rw [List.nil_append, Cursor.after, Cursor.after, byteLength_toList] at walked
  exact ⟨buffer, _, made, walked, rfl, ordered_charOffsets 0 source.toList,
    fun _ => mem_charOffsets_iff_isValid⟩

/-- A character of each width. -/
theorem walk_visits_characters_widths :
    let source := "aé€😀"
    source.utf8ByteSize ≤ maxOffset ∧
    ∃ buffer, SourceBuffer.ofText source = .ok buffer ∧
      (Cursor.start buffer).walk = .ok ([0, 1, 3, 6], ⟨10⟩) := by
  intro source
  have fits : source.utf8ByteSize ≤ maxOffset := by decide +kernel
  have offsets : charOffsets 0 source.toList = [0, 1, 3, 6] := by decide +kernel
  obtain ⟨buffer, visited, made, walked, rfl, _⟩ := walk_visits_characters fits
  rw [offsets] at walked
  exact ⟨fits, buffer, made, walked⟩

end FormulaLexer
