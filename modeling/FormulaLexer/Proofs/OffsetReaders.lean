import FormulaLexer.Decode.Offsets
import FormulaLexer.Proofs.Extension
import FormulaLexer.Proofs.LexemeMoves
import FormulaLexer.Proofs.Region

/-!
# Readers by offsets

Readers that compute offsets into the bytes of a text never fault, whatever the text is, and find
what the readers of characters find. Every offset they compute is the length of some characters at
the front of the text: an ASCII byte is the only trace of its character, so a search for one stops
between characters.
-/

set_option autoImplicit false

namespace FormulaLexer

open Grammar (byteLength)

namespace Offsets

theorem bytes_eq_encode (text : String) : bytes text = encode text.toList :=
  (encode_toList text).symm

theorem length_bytes (text : String) : (bytes text).length = text.utf8ByteSize := by
  rw [bytes_eq_encode, length_encode, byteLength_toList]

private theorem getElem?_bytes_zero {text : String} {first : Char} {rest : List Char}
    (chars : text.toList = first :: rest) : (bytes text)[0]? = some (leadByte first) := by
  rw [bytes_eq_encode, chars]
  exact getElem?_encode [] (first :: rest)

/-! ## Strings -/

section

variable {before middle later behind ahead : List Char} {text : String}

private theorem cutText_between (whole : text.toList = before ++ middle ++ later) :
    cutText text (byteLength before) (byteLength (before ++ middle)) =
      .ok (String.ofList middle) := by
  rw [cutText, region?_between whole]

private theorem cutBytes_ahead (behind ahead : List Char) :
    cutBytes (encode (behind ++ ahead)) (byteLength behind) (encode (behind ++ ahead)).length =
      .ok (encode ahead) := by
  rw [cutBytes, if_pos (by simp), List.take_length, encode_append, ← length_encode behind,
    List.drop_left]

private theorem closingQuote?_missing (absent : '"' ∉ ahead) :
    closingQuote? (encode (behind ++ ahead)) (byteLength behind) = .ok none := by
  have searched : (encode ahead).idxOf? Cursor.quoteByte = _ := idxOf?_encode (by decide) ahead
  rw [if_neg absent] at searched
  rw [closingQuote?, cutBytes_ahead]
  simp only [searched]

/-- The first quote ahead ends the literal, unless a second one follows it. -/
theorem closingQuote?_quote (free : '"' ∉ before) (rest : List Char) :
    closingQuote? (encode (behind ++ before ++ '"' :: rest)) (byteLength behind) =
      if rest.head? = some '"' then
        closingQuote? (encode (behind ++ before ++ '"' :: rest))
          (byteLength (behind ++ before ++ ['"', '"']))
      else .ok (some (byteLength (behind ++ before))) := by
  have searched : (encode (before ++ '"' :: rest)).idxOf? Cursor.quoteByte =
      some (byteLength before) := by
    rw [Cursor.quoteByte, idxOf?_encode (by decide), if_pos (by simp), (search_append free rest).1]
  have following : (encode (behind ++ before ++ '"' :: rest))[byteLength behind +
      byteLength before + 1]? = rest.head?.map leadByte := by
    have read := getElem?_encode (behind ++ before ++ ['"']) rest
    simpa [utf8Size_ascii, Nat.add_assoc] using read
  have paired : rest.head?.map leadByte = some Cursor.quoteByte ↔ rest.head? = some '"' := by
    cases rest with
    | nil => simp
    | cons char rest =>
        rw [List.head?_cons, Option.map_some, Option.some.injEq, Option.some.injEq]
        exact Cursor.leadByte_eq_toUInt8_iff (by decide)
  rw [closingQuote?, List.append_assoc, cutBytes_ahead, ← List.append_assoc]
  simp only [searched, following, dite_eq_ite, paired]
  simp [utf8Size_ascii, Nat.add_assoc]

/-- The search for the end of a literal stops behind its inside, and finds no end where the reader
of characters finds none. A pair of quotes is passed in one step, so the recursion is on the length
of what is left behind it. -/
theorem closingQuote?_after (behind ahead : List Char) :
    closingQuote? (encode (behind ++ ahead)) (byteLength behind) =
      .ok ((Text.Quoted.body? ahead).map fun found => byteLength (behind ++ found.1)) := by
  induction length : ahead.length using Nat.strongRecOn generalizing behind ahead with
  | ind count ih =>
    rw [Cursor.body?_skip]
    rcases search_cases '"' ahead with
      ⟨absent, taken, left⟩ | ⟨before, rest, free, rfl, taken, left⟩
    · rw [closingQuote?_missing absent, left]
      rfl
    · rw [← List.append_assoc, closingQuote?_quote free, taken, left]
      cases rest with
      | nil => simp [Text.Quoted.body?]
      | cons char rest =>
          by_cases pair : char = '"'
          · subst pair
            have shorter : rest.length < count := by
              rw [← length]
              simp only [List.length_append, List.length_cons]
              omega
            have again := ih _ shorter (behind ++ before ++ ['"', '"']) rest rfl
            rw [List.append_assoc _ ['"', '"']] at again
            rw [if_pos List.head?_cons]
            refine again.trans ?_
            simp [Text.Quoted.body?, Function.comp_def]
          · rw [if_neg (by simpa using pair), Text.Quoted.body?.eq_3]
            · simp
            · rintro _ same
              exact pair (List.cons.inj same).1

private theorem collapse_of_free {body : List Char} (free : '"' ∉ body) :
    Text.Quoted.collapse body = body := by
  induction body with
  | nil => rfl
  | cons char rest ih =>
      simp only [List.mem_cons, not_or] at free
      obtain ⟨differs, restFree⟩ := free
      rw [Text.Quoted.collapse.eq_2 char rest fun _ same _ => differs same.symm, ih restFree]

private theorem contains_quoteByte (body : List Char) :
    (bytes (String.ofList body)).contains Cursor.quoteByte = body.contains '"' := by
  rw [bytes_eq_encode, String.toList_ofList, Bool.eq_iff_iff, List.contains_iff_mem,
    List.contains_iff_mem]
  exact mem_encode_iff (by decide)

/-- A literal is decoded when its inside ends with the text. -/
theorem decodeString_quote {raw : String} {rest : List Char} (whole : raw.toList = '"' :: rest) :
    decodeString raw = .ok (FormulaLexer.decodeString raw) := by
  have all : bytes raw = encode (['"'] ++ rest) := by rw [bytes_eq_encode, whole]; rfl
  have opening : (bytes raw)[0]? = some Cursor.quoteByte := getElem?_bytes_zero whole
  have searched : closingQuote? (bytes raw) 1 = _ := all ▸ closingQuote?_after ['"'] rest
  rw [decodeString, FormulaLexer.decodeString, whole, Text.Quoted.decode?]
  simp only [opening, ↓reduceIte, searched, bind, Except.bind]
  cases found : Text.Quoted.body? rest with
  | none => rfl
  | some read =>
      obtain ⟨body, after⟩ := read
      have parts := Text.Quoted.append_of_body? found
      have length : (bytes raw).length = byteLength (['"'] ++ body) + 1 + byteLength after := by
        rw [all, length_encode, ← parts]
        simp [utf8Size_ascii, Nat.add_assoc]
      simp only [Option.map_some, length]
      cases after with
      | nil =>
          have framed : raw.toList = ['"'] ++ body ++ ['"'] := by
            rw [whole, ← parts]
            rfl
          have cut : cutText raw 1 (byteLength (['"'] ++ body)) = .ok (String.ofList body) :=
            cutText_between framed
          simp only [byteLength_nil, Nat.add_zero, ↓reduceIte, cut, contains_quoteByte,
            String.toList_ofList]
          by_cases doubled : '"' ∈ body
          · simp [doubled, pure, Except.pure]
          · simp [doubled, collapse_of_free, pure, Except.pure]
      | cons char after =>
          have positive := byteLength_pos (List.cons_ne_nil char after)
          rw [if_neg (by omega)]
          rfl

theorem decodeString_eq (raw : String) :
    decodeString raw = .ok (FormulaLexer.decodeString raw) := by
  cases chars : raw.toList with
  | nil =>
      have all : bytes raw = [] := by rw [bytes_eq_encode, chars]; rfl
      rw [decodeString, FormulaLexer.decodeString, all, chars]
      rfl
  | cons first rest =>
      by_cases quote : first = '"'
      · exact decodeString_quote (quote ▸ chars)
      · have differs : (bytes raw)[0]? ≠ some Cursor.quoteByte := by
          intro same
          rw [getElem?_bytes_zero chars, Option.some.injEq] at same
          exact quote ((Cursor.leadByte_eq_toUInt8_iff (by decide)).mp same)
        have refused : Text.Quoted.decode? (first :: rest) = none := by
          unfold Text.Quoted.decode?
          split
          · next same => exact absurd (List.cons.inj same).1 quote
          · rfl
        rw [decodeString, FormulaLexer.decodeString, chars, refused, if_neg differs]
        rfl

end

/-! ## Names -/

theorem splitSigil_eq (text : String) :
    splitSigil text =
      .ok ((Symbol.splitSigil text.toList).1, String.ofList (Symbol.splitSigil text.toList).2) := by
  rw [splitSigil, Symbol.splitSigil]
  cases ending : text.toList.getLast? with
  | none => simp [pure, Except.pure]
  | some last =>
      cases named : Scope.ofSigil? last with
      | none => simp [named, pure, Except.pure]
      | some scope =>
          obtain ⟨init, whole⟩ := List.getLast?_eq_some_iff.mp ending
          have length : text.utf8ByteSize = byteLength init + last.utf8Size := by
            rw [← byteLength_toList, whole]
            simp
          have front : text.toList = [] ++ init ++ [last] := whole
          have cut : cutText text 0 (byteLength init) = .ok (String.ofList init) :=
            cutText_between front
          simp [named, stepBack, length, cut, whole, bind, Except.bind, pure, Except.pure]

theorem symbol_eq (text : String) : symbol text = .ok (Symbol.ofText text) := by
  rw [symbol, splitSigil_eq]
  simp [bind, Except.bind, pure, Except.pure, Symbol.ofText]

/-! ## Operators -/

private theorem lowerByte_toUInt8 {char : Char} (ascii : char.toNat < 128) :
    lowerByte char.toUInt8 = char.toLower.toUInt8 := by
  have every : ∀ code < 128,
      lowerByte (Char.ofNat code).toUInt8 = (Char.ofNat code).toLower.toUInt8 := by
    decide +kernel
  simpa using every char.toNat ascii

/-- Folding the bytes of ASCII characters folds the characters. -/
theorem map_lowerByte_encode {chars : List Char} (ascii : ∀ char ∈ chars, char.toNat < 128) :
    (encode chars).map lowerByte = encode (chars.map Char.toLower) := by
  have foldedAscii : ∀ char ∈ chars.map Char.toLower, char.toNat < 128 := by
    rw [List.forall_mem_map]
    intro char member
    have kept := Text.isAscii_toLower char
    simpa [Text.isAscii, ascii char member] using kept
  rw [encode_ascii ascii, encode_ascii foldedAscii, List.map_map, List.map_map]
  exact List.map_congr_left fun char member => lowerByte_toUInt8 (ascii char member)

private theorem all_ascii_bytes (text : String) :
    (bytes text).all (· < 0x80) = text.toList.all Text.isAscii := by
  rw [bytes_eq_encode, Bool.eq_iff_iff]
  simp only [List.all_eq_true, decide_eq_true_eq, Text.isAscii]
  exact ascii_encode_iff

private theorem cutBytes_overwrite {room front : List UInt8} (fits : front.length ≤ room.length) :
    cutBytes (overwrite room front) 0 front.length = .ok front := by
  have length : front.length ≤ (overwrite room front).length := by
    simp only [overwrite, List.length_append, List.length_take, List.length_drop]
    omega
  rw [cutBytes, if_pos ⟨Nat.zero_le _, length⟩, overwrite, List.take_of_length_le fits,
    List.take_left, List.drop_zero]

theorem operator_eq (text : String) : operator text = .ok (Operator.ofSpelling text) := by
  have empty : text.isEmpty = true ↔ text.utf8ByteSize = 0 := by
    rw [String.isEmpty_iff, String.utf8ByteSize_eq_zero_iff]
  rw [operator, Operator.ofSpelling, length_bytes, all_ascii_bytes]
  by_cases refused : text.utf8ByteSize = 0 ∨ Operator.maxSpellingBytes < text.utf8ByteSize ∨
      !text.toList.all Text.isAscii
  · rw [if_pos refused, if_pos (by simpa [empty, or_assoc] using refused)]
    rfl
  · rw [if_neg refused, if_neg (by simpa [empty, or_assoc] using refused)]
    simp only [not_or, Nat.not_lt, Bool.not_eq_true, Bool.not_eq_false'] at refused
    obtain ⟨-, short, ascii⟩ := refused
    have folded : (bytes text).map lowerByte = encode (Text.asciiFold text) := by
      rw [bytes_eq_encode, Text.asciiFold]
      exact map_lowerByte_encode (by simpa [Text.isAscii] using ascii)
    have size : (encode (Text.asciiFold text)).length = text.utf8ByteSize := by
      rw [length_encode, Text.asciiFold, Text.byteLength_folded, byteLength_toList]
    have cut : cutBytes (overwrite (List.replicate Operator.maxSpellingBytes 0)
        (encode (Text.asciiFold text))) 0 text.utf8ByteSize =
          .ok (encode (Text.asciiFold text)) := by
      rw [← size]
      exact cutBytes_overwrite (by rw [size, List.length_replicate]; exact short)
    have spelled : String.fromUTF8? ⟨(encode (Text.asciiFold text)).toArray⟩ =
        some (String.ofList (Text.asciiFold text)) := by
      rw [encode_eq_toUTF8, Array.toArray_toList]
      exact fromUTF8?_toByteArray _
    simp only [folded, cut, spelled, bind, Except.bind]
    rfl

/-! ## Words -/

private theorem any_isAlpha_leadByte (char : Char) :
    (asciiChar? (leadByte char)).any Char.isAlpha = char.isAlpha := by
  rw [asciiChar?_leadByte]
  split
  · rfl
  · next wide =>
      cases letter : char.isAlpha with
      | false => rfl
      | true => exact absurd (Text.toNat_lt_of_isAlpha letter) wide

private theorem keywordsOfLength_eq_nil {length : Nat} (outside : ¬ (2 ≤ length ∧ length ≤ 5)) :
    keywordsOfLength length = [] := by
  unfold keywordsOfLength
  split
  · exact absurd (by decide) outside
  · exact absurd (by decide) outside
  · exact absurd (by decide) outside
  · rfl

/-- A text that may be a reserved word has a first byte. -/
theorem keyword?_eq (text : String) : keyword? text = .ok (keywordKind? text) := by
  rw [keyword?, keywordKind?, length_bytes]
  by_cases inside : 2 ≤ text.utf8ByteSize ∧ text.utf8ByteSize ≤ 5
  · have nonempty : text.toList ≠ [] := by
      intro empty
      rw [← byteLength_toList, empty] at inside
      exact absurd inside.1 (by decide)
    obtain ⟨first, rest, chars⟩ := List.exists_cons_of_ne_nil nonempty
    have letter : (asciiChar? (leadByte first)).any Char.isAlpha =
        text.toList.head?.any Char.isAlpha := by
      rw [any_isAlpha_leadByte, chars]
      rfl
    rw [if_pos inside, readByte, getElem?_bytes_zero chars]
    simp only [bind, Except.bind, letter]
    cases text.toList.head?.any Char.isAlpha with
    | false => rfl
    | true => rfl
  · rw [if_neg inside, keywordsOfLength_eq_nil inside]
    simp only [List.find?_nil, Option.map_none, ite_self]
    rfl

theorem wordKind_eq (text : String) : wordKind text = .ok (FormulaLexer.wordKind text) := by
  rw [wordKind, FormulaLexer.wordKind, operator_eq, keyword?_eq, Operator.isSpelling]
  by_cases unspelled : Operator.ofSpelling text = .invalid
  · simp only [unspelled, bind, Except.bind, ↓reduceIte, bne_self_eq_false, Bool.false_eq_true]
    rfl
  · simp only [unspelled, bind, Except.bind, ↓reduceIte, bne_iff_ne.mpr unspelled]
    rfl

/-! ## Separators -/

theorem startsWithSeparator_eq (text : String) :
    startsWithSeparator text = FormulaLexer.startsWithSeparator text := by
  rw [startsWithSeparator, FormulaLexer.startsWithSeparator, bytes_eq_encode]
  cases text.toList with
  | nil => rfl
  | cons char rest =>
      rw [List.head?_cons, Option.any_some, isSeparator, ← Cursor.isSeparatorByte_leadByte,
        encode_cons]
      by_cases lead : leadByte char = Cursor.superscriptTwoLead
      · obtain ⟨second, bytes, shown⟩ := utf8EncodeChar_superscript lead
        rw [bytes]
        simp only [List.cons_append, lead, beq_self_eq_true, Bool.true_and, Bool.or_comm]
        congr 1
        rw [Bool.eq_iff_iff, beq_iff_eq, beq_iff_eq]
        exact shown
      · have differs : (char == Mark.superscriptTwo) = false := by
          rw [beq_eq_false_iff_ne]
          rintro rfl
          exact lead (by decide)
        obtain ⟨others, bytes⟩ := utf8EncodeChar_eq_cons char
        rw [bytes, differs, Bool.or_false, List.cons_append]
        cases others ++ encode rest with
        | nil => rfl
        | cons second later => simp [lead]

end Offsets

end FormulaLexer
