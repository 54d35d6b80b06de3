import FormulaLexer.Grammar
import FormulaLexer.Lexeme.Bytes

/-!
# Encoded text

The bytes of characters. The first byte of a character tells its width and whether it
is ASCII, and no byte of a wider character is mistaken for an ASCII one. These are the
facts that let a reader of bytes find the characters of a text.
-/

set_option autoImplicit false

namespace FormulaLexer

open Grammar (byteLength)

/-- The bytes of a list of characters. -/
def encode (chars : List Char) : List UInt8 :=
  chars.flatMap String.utf8EncodeChar

/-- The first byte of a character. -/
def leadByte (char : Char) : UInt8 :=
  (String.utf8EncodeChar char).headD 0

/-! ## Lengths -/

@[simp] theorem encode_nil : encode [] = [] := rfl

@[simp] theorem encode_cons (char : Char) (rest : List Char) :
    encode (char :: rest) = String.utf8EncodeChar char ++ encode rest := rfl

@[simp] theorem encode_append (left right : List Char) :
    encode (left ++ right) = encode left ++ encode right :=
  List.flatMap_append

@[simp] theorem byteLength_nil : byteLength [] = 0 := rfl

@[simp] theorem byteLength_cons (char : Char) (rest : List Char) :
    byteLength (char :: rest) = char.utf8Size + byteLength rest := rfl

@[simp] theorem byteLength_append (left right : List Char) :
    byteLength (left ++ right) = byteLength left + byteLength right := by
  induction left with
  | nil => simp
  | cons char left ih => simp [ih, Nat.add_assoc]

@[simp] theorem length_encode (chars : List Char) : (encode chars).length = byteLength chars := by
  induction chars with
  | nil => rfl
  | cons char rest ih => simp [ih]

theorem utf8ByteSize_ofList (chars : List Char) :
    (String.ofList chars).utf8ByteSize = byteLength chars := by
  rw [← String.size_toByteArray, String.toByteArray_ofList, List.utf8Encode,
    List.size_toByteArray]
  exact length_encode chars

theorem byteLength_toList (text : String) : byteLength text.toList = text.utf8ByteSize := by
  rw [← utf8ByteSize_ofList, String.ofList_toList]

theorem encode_eq_toUTF8 (chars : List Char) :
    encode chars = (String.ofList chars).toUTF8.data.toList := by
  rw [String.toUTF8_eq_toByteArray, String.toByteArray_ofList, List.utf8Encode,
    List.data_toByteArray]
  rfl

theorem encode_toList (text : String) : encode text.toList = text.toUTF8.data.toList := by
  rw [encode_eq_toUTF8, String.ofList_toList]

theorem byteLength_pos {chars : List Char} (nonempty : chars ≠ []) : 0 < byteLength chars := by
  cases chars with
  | nil => exact absurd rfl nonempty
  | cons char rest =>
      have positive := char.utf8Size_pos
      rw [byteLength_cons]
      omega

/-! ## Slices of encoded text -/

/-- The bytes between two places between characters, whatever follows the text. -/
theorem extract_encoded (before middle later : List Char) (padding : ByteArray) :
    ((String.ofList (before ++ middle ++ later)).toByteArray ++ padding).extract
        (byteLength before) (byteLength (before ++ middle)) =
      (String.ofList middle).toByteArray := by
  have size : ∀ chars, (String.ofList chars).toByteArray.size = byteLength chars := by
    intro chars
    rw [String.size_toByteArray, utf8ByteSize_ofList]
  have start : byteLength before = (String.ofList before).toByteArray.size + 0 := by
    rw [size, Nat.add_zero]
  have stop : byteLength (before ++ middle) =
      (String.ofList before).toByteArray.size + (String.ofList middle).toByteArray.size := by
    rw [size, size, byteLength_append]
  rw [String.ofList_append, String.ofList_append, String.toByteArray_append,
    String.toByteArray_append, ByteArray.append_assoc, ByteArray.append_assoc, start, stop,
    ByteArray.extract_append_size_add, ByteArray.extract_append_eq_left rfl]

theorem fromUTF8?_toByteArray (text : String) : String.fromUTF8? text.toByteArray = some text := by
  rw [String.fromUTF8?, dif_pos text.isValidUTF8]
  rfl

/-! ## First bytes -/

theorem toNat_val (char : Char) : char.val.toNat = char.toNat := rfl

theorem toNat_lt (char : Char) : char.toNat < 0x110000 := by
  rcases char.valid with low | ⟨_, high⟩
  · exact Nat.lt_trans low (by decide)
  · exact high

/-- An ASCII character is its own byte. -/
theorem utf8EncodeChar_ascii {char : Char} (ascii : char.toNat < 128) :
    String.utf8EncodeChar char = [char.toUInt8] := by
  apply String.utf8EncodeChar_eq_singleton
  rw [Char.utf8Size_eq_one_iff, UInt32.le_iff_toNat_le, toNat_val]
  exact Nat.le_of_lt_succ ascii

theorem utf8Size_ascii {char : Char} (ascii : char.toNat < 128) : char.utf8Size = 1 := by
  rw [← String.length_utf8EncodeChar, utf8EncodeChar_ascii ascii]
  rfl

/-- Folding a letter keeps its length. -/
theorem Text.utf8Size_toLower (char : Char) : char.toLower.utf8Size = char.utf8Size := by
  cases letter : char.isAlpha with
  | false => exact congrArg Char.utf8Size (toLower_of_uncased letter)
  | true =>
      have folded : char.toLower.isAlpha = true := (isAlpha_toLower char).trans letter
      exact (utf8Size_ascii (toNat_lt_of_isAlpha folded)).trans
        (utf8Size_ascii (toNat_lt_of_isAlpha letter)).symm

theorem Text.byteLength_folded (chars : List Char) :
    byteLength (chars.map Char.toLower) = byteLength chars := by
  induction chars with
  | nil => rfl
  | cons char chars ih => simp only [List.map_cons, byteLength_cons, utf8Size_toLower, ih]

/-- A wider character has no byte below 128. -/
theorem wide_of_mem_utf8EncodeChar {char : Char} (wide : 128 ≤ char.toNat) {byte : UInt8}
    (member : byte ∈ String.utf8EncodeChar char) : 0x80 ≤ byte := by
  have bound := toNat_lt char
  rw [UInt8.le_iff_toNat_le]
  simp only [String.utf8EncodeChar, toNat_val] at member
  split at member
  · omega
  split at member
  · simp only [List.mem_cons, List.not_mem_nil, or_false] at member
    rcases member with rfl | rfl <;> simp <;> omega
  split at member
  · simp only [List.mem_cons, List.not_mem_nil, or_false] at member
    rcases member with rfl | rfl | rfl <;> simp <;> omega
  · simp only [List.mem_cons, List.not_mem_nil, or_false] at member
    rcases member with rfl | rfl | rfl | rfl <;> simp <;> omega

theorem utf8EncodeChar_eq_cons (char : Char) :
    ∃ others, String.utf8EncodeChar char = leadByte char :: others := by
  cases bytes : String.utf8EncodeChar char with
  | nil =>
      have empty := congrArg List.length bytes
      have positive := char.utf8Size_pos
      rw [String.length_utf8EncodeChar, List.length_nil] at empty
      omega
  | cons first others => exact ⟨others, by simp [leadByte, bytes]⟩

theorem leadByte_ascii {char : Char} (ascii : char.toNat < 128) :
    leadByte char = char.toUInt8 := by
  simp [leadByte, utf8EncodeChar_ascii ascii]

theorem toNat_ofUInt8 (byte : UInt8) : (Char.ofUInt8 byte).toNat = byte.toNat :=
  UInt8.toNat_toUInt32 byte

section

variable {char : Char}

theorem toNat_toUInt8 (ascii : char.toNat < 128) : char.toUInt8.toNat = char.toNat := by
  simp only [Char.toUInt8, UInt32.toNat_toUInt8, toNat_val]
  omega

private theorem toUInt8_lt (ascii : char.toNat < 128) : char.toUInt8 < 0x80 := by
  rw [UInt8.lt_iff_toNat_lt, toNat_toUInt8 ascii]
  exact ascii

theorem ofUInt8_toUInt8 (ascii : char.toNat < 128) : Char.ofUInt8 char.toUInt8 = char := by
  rw [← Char.toNat_inj, toNat_ofUInt8, toNat_toUInt8 ascii]

theorem asciiChar?_toUInt8 (ascii : char.toNat < 128) :
    asciiChar? char.toUInt8 = some char := by
  rw [asciiChar?, if_pos (toUInt8_lt ascii), ofUInt8_toUInt8 ascii]

end

/-- The first byte shows an ASCII character, and shows that a character is none. -/
theorem asciiChar?_leadByte (char : Char) :
    asciiChar? (leadByte char) = if char.toNat < 128 then some char else none := by
  split
  · next ascii => rw [leadByte_ascii ascii, asciiChar?_toUInt8 ascii]
  · next wide =>
      obtain ⟨others, bytes⟩ := utf8EncodeChar_eq_cons char
      have member : leadByte char ∈ String.utf8EncodeChar char := by simp [bytes]
      have large := wide_of_mem_utf8EncodeChar (Nat.le_of_not_lt wide) member
      rw [asciiChar?, if_neg (UInt8.not_lt.mpr large)]

/-- The byte of an ASCII character occurs in no other character. -/
theorem not_mem_utf8EncodeChar {char target : Char} (ascii : target.toNat < 128)
    (differs : char ≠ target) : target.toUInt8 ∉ String.utf8EncodeChar char := by
  intro member
  by_cases small : char.toNat < 128
  · rw [utf8EncodeChar_ascii small, List.mem_singleton] at member
    have same := asciiChar?_toUInt8 ascii
    rw [member, asciiChar?_toUInt8 small, Option.some.injEq] at same
    exact differs same
  · have large := wide_of_mem_utf8EncodeChar (Nat.le_of_not_lt small) member
    have known := asciiChar?_toUInt8 ascii
    rw [asciiChar?, if_neg (UInt8.not_lt.mpr large)] at known
    cases known

/-- The first byte of a character tells how many bytes it has. -/
theorem charWidth_leadByte (char : Char) : Cursor.charWidth (leadByte char) = char.utf8Size := by
  have bound := toNat_lt char
  rw [← String.length_utf8EncodeChar]
  unfold leadByte String.utf8EncodeChar Cursor.charWidth
  simp only [toNat_val, UInt8.le_iff_toNat_le]
  split
  · simp only [List.headD_cons, UInt8.toNat_ofNat', List.length_cons, List.length_nil]
    rw [if_neg (by simp; omega), if_neg (by simp; omega), if_neg (by simp; omega)]
  split
  · simp only [List.headD_cons, UInt8.toNat_ofNat', List.length_cons, List.length_nil]
    rw [if_pos (by simp; omega)]
  split
  · simp only [List.headD_cons, UInt8.toNat_ofNat', List.length_cons, List.length_nil]
    rw [if_neg (by simp; omega), if_pos (by simp; omega)]
  · simp only [List.headD_cons, UInt8.toNat_ofNat', List.length_cons, List.length_nil]
    rw [if_neg (by simp; omega), if_neg (by simp; omega), if_pos (by simp; omega)]

/-- Among the characters that share its first byte, the superscript two is told by the
second one. -/
theorem utf8EncodeChar_superscript {char : Char}
    (lead : leadByte char = Cursor.superscriptTwoLead) :
    ∃ second, String.utf8EncodeChar char = [leadByte char, second] ∧
      (second = Cursor.superscriptTwoTail ↔ char = Mark.superscriptTwo) := by
  have bound := toNat_lt char
  unfold leadByte String.utf8EncodeChar Cursor.superscriptTwoLead at lead
  unfold leadByte String.utf8EncodeChar
  simp only [toNat_val] at lead ⊢
  split at lead
  · have value := congrArg UInt8.toNat lead
    simp at value
    omega
  split at lead
  · next small =>
      have value := congrArg UInt8.toNat lead
      simp only [List.headD_cons, UInt8.toNat_ofNat', UInt8.reduceToNat] at value
      rw [if_neg (by assumption), if_pos small]
      refine ⟨_, rfl, ?_⟩
      rw [← UInt8.toNat_inj, ← Char.toNat_inj]
      simp [Cursor.superscriptTwoTail, Mark.superscriptTwo]
      omega
  split at lead
  · have value := congrArg UInt8.toNat lead
    simp at value
    omega
  · have value := congrArg UInt8.toNat lead
    simp at value
    omega

/-! ## Bytes of a text -/

section

variable {target : Char} {chars : List Char}

theorem encode_ascii (ascii : ∀ char ∈ chars, char.toNat < 128) :
    encode chars = chars.map Char.toUInt8 := by
  induction chars with
  | nil => rfl
  | cons char rest ih =>
      obtain ⟨first, others⟩ := List.forall_mem_cons.mp ascii
      rw [encode_cons, utf8EncodeChar_ascii first, ih others]
      rfl

/-- The bytes of a text are ASCII just when its characters are. -/
theorem ascii_encode_iff :
    (∀ byte ∈ encode chars, byte < 0x80) ↔ ∀ char ∈ chars, char.toNat < 128 := by
  constructor
  · intro small char member
    obtain ⟨others, bytes⟩ := utf8EncodeChar_eq_cons char
    have inside : leadByte char ∈ String.utf8EncodeChar char := by simp [bytes]
    have low := small _ (List.mem_flatMap.mpr ⟨char, member, inside⟩)
    refine Nat.lt_of_not_le fun wide => ?_
    exact UInt8.not_lt.mpr (wide_of_mem_utf8EncodeChar wide inside) low
  · intro ascii byte member
    rw [encode_ascii ascii] at member
    obtain ⟨char, inside, rfl⟩ := List.mem_map.mp member
    exact toUInt8_lt (ascii char inside)

theorem mem_encode_iff (ascii : target.toNat < 128) :
    target.toUInt8 ∈ encode chars ↔ target ∈ chars := by
  rw [encode, List.mem_flatMap]
  constructor
  · rintro ⟨char, member, inside⟩
    by_cases same : char = target
    · exact same ▸ member
    · exact absurd inside (not_mem_utf8EncodeChar ascii same)
  · intro member
    exact ⟨target, member, by rw [utf8EncodeChar_ascii ascii]; exact List.mem_singleton_self _⟩

/-- A search for an ASCII byte passes whole characters. -/
theorem idxOf?_encode (ascii : target.toNat < 128) (chars : List Char) :
    (encode chars).idxOf? target.toUInt8 =
      if target ∈ chars then some (byteLength (chars.takeWhile (· != target))) else none := by
  induction chars with
  | nil => rfl
  | cons char rest ih =>
      by_cases same : char = target
      · subst same
        simp [utf8EncodeChar_ascii ascii, List.idxOf?_cons]
      · have absent : (String.utf8EncodeChar char).findIdx? (· == target.toUInt8) = none := by
          rw [List.findIdx?_eq_none_iff]
          intro byte member
          exact beq_false_of_ne fun found => not_mem_utf8EncodeChar ascii same (found ▸ member)
        have passed : (char != target) = true := bne_iff_ne.mpr same
        rw [List.idxOf?] at ih
        rw [encode_cons, List.idxOf?, List.findIdx?_append, absent, ih,
          List.takeWhile_cons_of_pos (p := (· != target)) passed]
        by_cases member : target ∈ rest
        · simp [member, Nat.add_comm]
        · simp [member, Ne.symm same]

/-- The byte at a place between characters is the first one of the character there. -/
theorem getElem?_encode (behind ahead : List Char) :
    (encode (behind ++ ahead))[byteLength behind]? = ahead.head?.map leadByte := by
  rw [encode_append, List.getElem?_append_right (by simp), length_encode, Nat.sub_self]
  cases ahead with
  | nil => rfl
  | cons char rest =>
      obtain ⟨others, bytes⟩ := utf8EncodeChar_eq_cons char
      simp [bytes]

end

end FormulaLexer
