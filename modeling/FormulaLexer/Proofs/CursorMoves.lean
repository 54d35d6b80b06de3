import Mathlib.Data.List.TakeWhile
import FormulaLexer.Proofs.Classification
import FormulaLexer.Proofs.Encoding
import FormulaLexer.Scanner

/-!
# Cursors between characters

A cursor of a scan always stands between two characters of its source. For such a cursor
every read and every move is an equation about the characters ahead, and none of them is
a fault. The padding answers for what lies behind the end of the source.
-/

set_option autoImplicit false

namespace FormulaLexer

open Grammar (byteLength)

/-! ## Buffers that hold a text -/

/-- The buffer holds a text whose offsets all fit. -/
structure SourceBuffer.Holds (buffer : SourceBuffer) (chars : List Char) : Prop where
  bytes : buffer.bytes = SourceBuffer.pad (String.ofList chars)
  length : buffer.length = byteLength chars
  fits : byteLength chars ≤ maxOffset

theorem SourceBuffer.Holds.pass {buffer : SourceBuffer} {behind passed ahead rest : List Char}
    (holds : buffer.Holds (behind ++ ahead)) (whole : passed ++ rest = ahead) :
    buffer.Holds (behind ++ passed ++ rest) := by
  rw [List.append_assoc, whole]
  exact holds

theorem SourceBuffer.Holds.passChar {buffer : SourceBuffer} {behind rest : List Char}
    {char : Char} (holds : buffer.Holds (behind ++ char :: rest)) :
    buffer.Holds (behind ++ [char] ++ rest) :=
  holds.pass rfl

theorem SourceBuffer.Holds.length_le_maxOffset {buffer : SourceBuffer} {chars : List Char}
    (holds : buffer.Holds chars) : buffer.length ≤ maxOffset := by
  rw [holds.length]
  exact holds.fits

/-- A source whose offsets fit has a buffer, and the buffer holds it. -/
theorem SourceBuffer.ofText_eq_ok {source : String} (fits : source.utf8ByteSize ≤ maxOffset) :
    ∃ buffer, SourceBuffer.ofText source = .ok buffer ∧ buffer.Holds source.toList := by
  have inRange : Span.ofRange 0 source.utf8ByteSize = .ok ⟨0, source.utf8ByteSize⟩ := by
    rw [Span.ofRange, if_neg (Nat.not_lt_zero _), if_neg (Nat.not_lt.mpr fits)]
  refine ⟨⟨SourceBuffer.pad source, source.utf8ByteSize⟩, ?_, ?_, ?_, ?_⟩
  · simp only [SourceBuffer.ofText, inRange]
  · rw [String.ofList_toList]
  · exact (byteLength_toList source).symm
  · rw [byteLength_toList]
    exact fits

theorem SourceBuffer.ofText_large {source : String} (large : maxOffset < source.utf8ByteSize) :
    SourceBuffer.ofText source = .error (.stopTooLarge source.utf8ByteSize) := by
  have refused : Span.ofRange 0 source.utf8ByteSize =
      .error (.stopTooLarge source.utf8ByteSize) := by
    rw [Span.ofRange, if_neg (Nat.not_lt_zero _), if_pos large]
  simp only [SourceBuffer.ofText, refused]

theorem SourceBuffer.holds_of_ofText {source : String} {buffer : SourceBuffer}
    (made : SourceBuffer.ofText source = .ok buffer) : buffer.Holds source.toList := by
  by_cases fits : source.utf8ByteSize ≤ maxOffset
  · obtain ⟨other, remade, holds⟩ := SourceBuffer.ofText_eq_ok fits
    cases made.symm.trans remade
    exact holds
  · cases made.symm.trans (SourceBuffer.ofText_large (Nat.lt_of_not_le fits))

theorem sourceBuffer_eq_ok {source : String} (fits : source.utf8ByteSize ≤ maxOffset) :
    ∃ buffer, sourceBuffer source = .ok buffer ∧ buffer.Holds source.toList := by
  obtain ⟨buffer, made, holds⟩ := SourceBuffer.ofText_eq_ok fits
  exact ⟨buffer, by rw [sourceBuffer, made]; rfl, holds⟩

/-- At least three zeros stand behind every source that fits. -/
theorem SourceBuffer.lookahead_le_padding {length : Nat} (fits : length ≤ maxOffset) :
    length + SourceBuffer.lookahead ≤ SourceBuffer.paddedSize length := by
  rw [SourceBuffer.paddedSize_eq fits, SourceBuffer.lookahead]
  omega

theorem SourceBuffer.toList_pad (chars : List Char) :
    (SourceBuffer.pad (String.ofList chars)).data.toList =
      encode chars ++
        List.replicate (SourceBuffer.paddedSize (byteLength chars) - byteLength chars) 0 := by
  rw [SourceBuffer.pad, utf8ByteSize_ofList, ByteArray.data_append, Array.toList_append,
    encode_eq_toUTF8]
  rfl

/-- A search through a text finds nothing, or parts the text where the character first
stands. -/
theorem search_cases (target : Char) (chars : List Char) :
    (target ∉ chars ∧ chars.takeWhile (· != target) = chars ∧
        chars.dropWhile (· != target) = []) ∨
      ∃ before after, target ∉ before ∧ chars = before ++ target :: after ∧
        chars.takeWhile (· != target) = before ∧
        chars.dropWhile (· != target) = target :: after := by
  induction chars with
  | nil => exact .inl ⟨List.not_mem_nil, rfl, rfl⟩
  | cons char rest ih =>
      by_cases same : char = target
      · subst same
        exact .inr ⟨[], rest, List.not_mem_nil, rfl, by simp, by simp⟩
      rcases ih with ⟨absent, taken, left⟩ | ⟨before, after, absent, parts, taken, left⟩
      · left
        simp [same, Ne.symm same, absent, taken, left]
      · right
        refine ⟨char :: before, after, ?_, ?_, ?_, ?_⟩
        · simp [Ne.symm same, absent]
        · rw [parts]
          rfl
        · rw [List.takeWhile_cons_of_pos (by simpa using same), taken]
        · rw [List.dropWhile_cons_of_pos (by simpa using same), left]

namespace Cursor

variable {buffer : SourceBuffer}

/-- The cursor behind a list of characters at the front of the source. -/
def after (behind : List Char) : Cursor buffer := ⟨byteLength behind⟩

variable {behind ahead rest : List Char} {char : Char}

private theorem getElem?_of_holds (holds : buffer.Holds (behind ++ ahead)) (distance : Nat)
    (near : distance ≤ byteLength ahead + 2) :
    buffer.bytes[byteLength behind + distance]? = some ((encode ahead)[distance]?.getD 0) := by
  have padded := SourceBuffer.lookahead_le_padding holds.fits
  have data := SourceBuffer.toList_pad (behind ++ ahead)
  simp only [SourceBuffer.lookahead, byteLength_append] at padded data
  have size := congrArg List.length data
  simp only [Array.length_toList, List.length_append, length_encode, byteLength_append,
    List.length_replicate] at size
  have read : buffer.bytes[byteLength behind + distance]? =
      buffer.bytes.data.toList[byteLength behind + distance]? := by
    rw [Array.getElem?_toList]
    rfl
  rw [read, holds.bytes, data, encode_append, List.append_assoc,
    List.getElem?_append_right (by simp), length_encode, Nat.add_sub_cancel_left]
  by_cases inside : distance < byteLength ahead
  · have bounded : distance < (encode ahead).length := by simpa using inside
    rw [List.getElem?_append_left bounded, List.getElem?_eq_getElem bounded]
    rfl
  · have outside : (encode ahead)[distance]? = none := by simpa using inside
    rw [outside, List.getElem?_append_right (by simpa using inside), List.getElem?_replicate]
    rw [if_pos (by simp only [length_encode]; omega)]
    rfl

/-- The zero behind the source is inside the buffer. -/
theorem length_lt_size_of_holds {chars : List Char} (holds : buffer.Holds chars) :
    buffer.length < buffer.bytes.size := by
  have front : buffer.Holds ([] ++ chars) := holds
  have read := getElem?_of_holds front (byteLength chars) (Nat.le_add_right _ _)
  obtain ⟨bounded, _⟩ := getElem?_eq_some_iff.mp read
  rw [byteLength_nil, Nat.zero_add] at bounded
  rw [holds.length]
  exact bounded

theorem byteAt_of_holds (holds : buffer.Holds (behind ++ ahead)) (distance : Nat)
    (near : distance ≤ byteLength ahead + 2) :
    byteAt buffer (byteLength behind + distance) = .ok ((encode ahead)[distance]?.getD 0) := by
  have read := getElem?_of_holds holds distance near
  obtain ⟨bounded, value⟩ := getElem?_eq_some_iff.mp read
  rw [byteAt, dif_pos bounded, value]

private theorem position_le_of_holds (holds : buffer.Holds (behind ++ ahead)) :
    byteLength behind + byteLength ahead ≤ maxOffset := by
  rw [← byteLength_append]
  exact holds.fits

/-! ## Reading -/

theorem atEnd_after (holds : buffer.Holds (behind ++ ahead)) :
    (after behind : Cursor buffer).atEnd = ahead.isEmpty := by
  rw [Bool.eq_iff_iff, List.isEmpty_iff, atEnd, decide_eq_true_eq, holds.length, after,
    byteLength_append]
  cases ahead with
  | nil => simp
  | cons char rest =>
      have positive := byteLength_pos (List.cons_ne_nil char rest)
      simp only [reduceCtorEq, iff_false]
      omega

theorem current_after_cons (holds : buffer.Holds (behind ++ char :: rest)) :
    (after behind : Cursor buffer).current = .ok (leadByte char) := by
  obtain ⟨others, bytes⟩ := utf8EncodeChar_eq_cons char
  have read := byteAt_of_holds holds 0 (Nat.zero_le _)
  rw [current, after]
  simpa [bytes] using read

/-- At the end of the source the cursor stands on the zero behind it. -/
theorem current_after_nil (holds : buffer.Holds (behind ++ [])) :
    (after behind : Cursor buffer).current = .ok 0 := by
  have read := byteAt_of_holds holds 0 (Nat.zero_le _)
  rw [current, after]
  simpa using read

private theorem atSuperscriptTwo_after_cons (holds : buffer.Holds (behind ++ char :: rest)) :
    (after behind : Cursor buffer).atSuperscriptTwo = .ok (char == Mark.superscriptTwo) := by
  rw [atSuperscriptTwo, current_after_cons holds]
  simp only [bind, Except.bind]
  split
  · next lead =>
      obtain ⟨second, bytes, tail⟩ := utf8EncodeChar_superscript lead
      have read := byteAt_of_holds holds 1 (by omega)
      have following : (after behind : Cursor buffer).peek = .ok second := by
        rw [peek, after]
        simpa [bytes] using read
      rw [following]
      simp only [pure, Except.pure, Except.ok.injEq]
      rw [Bool.eq_iff_iff, beq_iff_eq, beq_iff_eq]
      exact tail
  · next other =>
      have differs : char ≠ Mark.superscriptTwo := by
        rintro rfl
        exact other (by decide)
      simp [pure, Except.pure, differs]

/-- Every mark is an ASCII character or the superscript two. -/
theorem ascii_of_mark (marked : (Mark.ofChar? char).isSome = true)
    (differs : char ≠ Mark.superscriptTwo) : char.toNat < 128 := by
  have table : ∀ first ∈ Mark.table.map (·.1),
      first ≠ Mark.superscriptTwo → first.toNat < 128 :=
    List.all_iff_forall_prop.mp (by decide)
  exact table char (Mark.isSome_ofChar?_iff.mp marked) differs

theorem mark?_after_cons (holds : buffer.Holds (behind ++ char :: rest)) :
    (after behind : Cursor buffer).mark? =
      .ok ((Mark.ofChar? char).map fun mark => (mark, char.utf8Size)) := by
  rw [mark?, atSuperscriptTwo_after_cons holds]
  simp only [bind, Except.bind, beq_iff_eq]
  split
  · next superscript => rw [superscript]; rfl
  · next differs =>
      rw [current_after_cons holds]
      simp only [asciiChar?_leadByte, pure, Except.pure, Except.ok.injEq]
      split
      · next ascii => rw [Option.bind_some, utf8Size_ascii ascii]
      · next wide =>
          cases marked : Mark.ofChar? char with
          | none => rfl
          | some mark =>
              exact absurd (ascii_of_mark (by simp [marked]) differs) wide

theorem ascii_of_isAsciiSeparator (separates : isAsciiSeparator char = true) :
    char.toNat < 128 := by
  have listed : ∀ mark ∈ [' ', '\t', '\r', '\n'] ++ separatorMarks, mark.toNat < 128 :=
    List.all_iff_forall_prop.mp (by decide)
  refine listed char ?_
  simpa only [isAsciiSeparator, isBlank, Bool.or_eq_true, beq_iff_eq, List.contains_iff_mem,
    List.mem_append, List.mem_cons, List.not_mem_nil, or_false, or_assoc] using separates

theorem isSeparatorByte_leadByte (char : Char) :
    isSeparatorByte (leadByte char) = isAsciiSeparator char := by
  rw [isSeparatorByte, asciiChar?_leadByte]
  split
  · rfl
  · next wide =>
      cases separates : isAsciiSeparator char with
      | false => rfl
      | true => exact absurd (ascii_of_isAsciiSeparator separates) wide

theorem atSeparator_after_cons (holds : buffer.Holds (behind ++ char :: rest)) :
    (after behind : Cursor buffer).atSeparator = .ok (isSeparator char) := by
  rw [atSeparator, current_after_cons holds, atSuperscriptTwo_after_cons holds]
  simp only [bind, Except.bind, isSeparatorByte_leadByte, isSeparator]
  cases isAsciiSeparator char <;> rfl

/-! ## Moving -/

theorem advanceBy_after {passed : List Char} (holds : buffer.Holds (behind ++ passed ++ ahead)) :
    (after behind : Cursor buffer).advanceBy (byteLength passed) =
      .ok (after (behind ++ passed)) := by
  have bound := position_le_of_holds holds
  rw [byteLength_append] at bound
  rw [advanceBy, after, if_pos (Nat.le_trans (Nat.le_add_right _ _) bound), after,
    byteLength_append]

theorem advance_after (holds : buffer.Holds (behind ++ char :: rest)) (ascii : char.toNat < 128) :
    (after behind : Cursor buffer).advance = .ok (after (behind ++ [char])) := by
  have moved := advanceBy_after holds.passChar
  simpa [advance, utf8Size_ascii ascii] using moved

theorem advanceChar_after (holds : buffer.Holds (behind ++ char :: rest)) :
    (after behind : Cursor buffer).advanceChar = .ok (after (behind ++ [char])) := by
  have moved := advanceBy_after holds.passChar
  rw [advanceChar, current_after_cons holds]
  simpa [charWidth_leadByte] using moved

/-- A run of ASCII characters is taken character by character; the zero behind the source
ends it. -/
theorem eatWhile_after {inClass : Char → Bool} (ascii : ∀ char, inClass char → char.toNat < 128)
    (zero : inClass '\x00' = false) (holds : buffer.Holds (behind ++ ahead)) :
    (after behind : Cursor buffer).eatWhile (fun byte => (asciiChar? byte).any inClass) =
      .ok (after (behind ++ ahead.takeWhile inClass)) := by
  induction ahead generalizing behind with
  | nil =>
      rw [List.takeWhile_nil, List.append_nil]
      exact eatWhile_stop (current_after_nil holds) zero
  | cons char rest ih =>
      have read := current_after_cons holds
      cases taken : inClass char with
      | false =>
          rw [List.takeWhile_cons, taken]
          simp only [Bool.false_eq_true, ↓reduceIte, List.append_nil]
          refine eatWhile_stop read ?_
          rw [asciiChar?_leadByte]
          split
          · exact taken
          · rfl
      | true =>
          have small := ascii char taken
          have moved := advance_after holds small
          have begins : (asciiChar? (leadByte char)).any inClass = true := by
            rw [asciiChar?_leadByte, if_pos small]
            exact taken
          rw [eatWhile_step read begins moved, ih holds.passChar, List.takeWhile_cons, taken]
          simp

/-- A search for an ASCII character finds it between characters: no byte of another
character is taken for it. -/
theorem findByte?_after {target : Char} (ascii : target.toNat < 128)
    (holds : buffer.Holds (behind ++ ahead)) :
    findByte? buffer.bytes target.toUInt8 buffer.length (byteLength behind) =
      if target ∈ ahead then some (byteLength (behind ++ ahead.takeWhile (· != target)))
      else none := by
  induction ahead generalizing behind with
  | nil =>
      have length := holds.length
      rw [findByte?, if_neg (by simp [length])]
      simp
  | cons char rest ih =>
      have length := holds.length
      have positive := char.utf8Size_pos
      rw [byteLength_append, byteLength_cons] at length
      by_cases same : char = target
      · subst same
        have read := getElem?_of_holds holds 0 (Nat.zero_le _)
        simp only [encode_cons, utf8EncodeChar_ascii ascii] at read
        rw [findByte?_here (by omega) (by simpa using read)]
        simp
      · have absent : ∀ distance < char.utf8Size,
            buffer.bytes[byteLength behind + distance]? ≠ some target.toUInt8 := by
          intro distance near found
          have bounded : distance < (String.utf8EncodeChar char).length := by simpa using near
          rw [getElem?_of_holds holds distance (by rw [byteLength_cons]; omega), encode_cons,
            List.getElem?_append_left bounded, List.getElem?_eq_getElem bounded,
            Option.getD_some, Option.some.injEq] at found
          exact not_mem_utf8EncodeChar ascii same (found ▸ List.getElem_mem bounded)
        have onward : byteLength behind + char.utf8Size = byteLength (behind ++ [char]) := by simp
        rw [findByte?_pass (by omega) absent, onward, ih holds.passChar]
        simp [same, Ne.symm same]

theorem skipTo_after {target : Char} (ascii : target.toNat < 128)
    (holds : buffer.Holds (behind ++ ahead)) :
    (after behind : Cursor buffer).skipTo target.toUInt8 =
      .ok (ahead.contains target, after (behind ++ ahead.takeWhile (· != target))) := by
  have length := holds.length
  have padded := length_lt_size_of_holds holds
  rw [byteLength_append] at length
  rw [skipTo, after, if_pos ⟨by simp only; omega, Nat.le_of_lt padded⟩, findByte?_after ascii holds]
  rcases search_cases target ahead with ⟨absent, taken, _⟩ | ⟨before, later, _, rfl, taken, _⟩
  · simp [absent, after, taken, length]
  · have advanced := advanceBy_after (holds.pass rfl)
    rw [after] at advanced
    simp [taken, advanced, Except.map]

theorem skipLine_after (holds : buffer.Holds (behind ++ ahead)) :
    (after behind : Cursor buffer).skipLine =
      .ok (after (behind ++ ahead.takeWhile (· != '\n'))) := by
  rw [skipLine, skipTo_after (by decide) holds, Except.map]
  rcases search_cases '\n' ahead with ⟨absent, taken, _⟩ | ⟨before, later, _, rfl, _, _⟩
  · simp [absent, taken, after, holds.length]
  · simp

end Cursor

end FormulaLexer
