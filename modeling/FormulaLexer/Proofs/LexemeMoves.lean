import FormulaLexer.Proofs.CursorMoves

/-!
# Moves over words, trivia and quoted text

The loops of a scan, for a cursor between characters: each stops where the grammar ends the
run of characters, the trivia or the literal that it follows.
-/

set_option autoImplicit false

namespace FormulaLexer

open Grammar (byteLength)

namespace Cursor

variable {buffer : SourceBuffer} {behind ahead rest : List Char} {char : Char}

/-! ## Words -/

theorem skipWord_after (holds : buffer.Holds (behind ++ ahead)) :
    (after behind : Cursor buffer).skipWord =
      .ok (after (behind ++ ahead.takeWhile Grammar.isWordChar)) := by
  induction ahead generalizing behind with
  | nil =>
      rw [List.takeWhile_nil, List.append_nil]
      exact skipWord_done (atEnd_after holds)
  | cons char rest ih =>
      have inside : ¬ (after behind : Cursor buffer).atEnd = true := by
        rw [atEnd_after holds]
        simp
      have separator := atSeparator_after_cons holds
      rw [List.takeWhile_cons, isWordChar_eq]
      cases separates : isSeparator char with
      | true =>
          rw [separates] at separator
          simp [skipWord_stop separator]
      | false =>
          rw [separates] at separator
          rw [skipWord_step inside separator (advanceChar_after holds), ih holds.passChar]
          simp

end Cursor

/-! ## Trivia -/

namespace Grammar

/-- Blanks in front of a text can be taken off as one run. -/
theorem splitTrivia_blanks (chars : List Char) :
    splitTrivia chars =
      (chars.takeWhile isBlank ++ (splitTrivia (chars.dropWhile isBlank)).1,
        (splitTrivia (chars.dropWhile isBlank)).2) := by
  induction chars with
  | nil => simp
  | cons char rest ih =>
      rw [List.takeWhile_cons, List.dropWhile_cons]
      cases blank : isBlank char with
      | false => rfl
      | true =>
          rw [isBlank_eq] at blank
          rw [splitTrivia, if_pos blank, ih]
          rfl

theorem splitTrivia_comment (rest : List Char) :
    splitTrivia ('\x27' :: rest) =
      (('\x27' :: rest.takeWhile (· != '\n')) ++ (splitTrivia (rest.dropWhile (· != '\n'))).1,
        (splitTrivia (rest.dropWhile (· != '\n'))).2) := by
  rw [splitTrivia, if_neg (by decide), if_pos rfl]

end Grammar

namespace Cursor

variable {buffer : SourceBuffer} {behind ahead rest : List Char} {char : Char}

private theorem ascii_of_isBlank (blank : isBlank char = true) : char.toNat < 128 :=
  ascii_of_isAsciiSeparator (by simp [isAsciiSeparator, blank])

private theorem isBlankByte_leadByte (char : Char) :
    isBlankByte (leadByte char) = isBlank char := by
  rw [isBlankByte, asciiChar?_leadByte]
  split
  · rfl
  · next wide =>
      cases blank : isBlank char with
      | false => rfl
      | true => exact absurd (ascii_of_isBlank blank) wide

theorem leadByte_eq_toUInt8_iff {target : Char} (ascii : target.toNat < 128) :
    leadByte char = target.toUInt8 ↔ char = target := by
  constructor
  · intro same
    have shown := asciiChar?_leadByte char
    rw [same, asciiChar?_toUInt8 ascii] at shown
    split at shown
    · exact (Option.some.inj shown).symm
    · cases shown
  · rintro rfl
    exact leadByte_ascii ascii

/-- Trivia is skipped exactly as the grammar cuts it off. The cursor takes a run of blanks in one
move, so the recursion is on the length of what is left. -/
theorem skipTrivia_after (holds : buffer.Holds (behind ++ ahead)) :
    (after behind : Cursor buffer).skipTrivia =
      .ok (after (behind ++ (Grammar.splitTrivia ahead).1)) := by
  induction length : ahead.length using Nat.strongRecOn generalizing behind ahead with
  | ind count ih =>
    cases ahead with
    | nil =>
        rw [Grammar.splitTrivia, List.append_nil]
        exact skipTrivia_done (atEnd_after holds)
    | cons char rest =>
        have inside : ¬ (after behind : Cursor buffer).atEnd = true := by
          rw [atEnd_after holds]
          simp
        have read := current_after_cons holds
        by_cases blank : isBlank char = true
        · have moved : (after behind : Cursor buffer).eatWhile isBlankByte = _ :=
            eatWhile_after (fun _ => ascii_of_isBlank) rfl holds
          have shorter : ((char :: rest).dropWhile isBlank).length < count := by
            rw [List.dropWhile_cons_of_pos blank, ← length]
            exact Nat.lt_succ_of_le (List.dropWhile_sublist _).length_le
          have passed := holds.pass (List.takeWhile_append_dropWhile (p := isBlank))
          rw [skipTrivia_blank inside read (by rw [isBlankByte_leadByte, blank]) moved,
            ih _ shorter passed rfl, Grammar.splitTrivia_blanks (char :: rest), List.append_assoc]
        · by_cases comment : char = '\x27'
          · subst comment
            have shorter : (rest.dropWhile (· != '\n')).length < count := by
              rw [← length]
              exact Nat.lt_succ_of_le (List.dropWhile_sublist _).length_le
            have passed : buffer.Holds (behind ++ ('\x27' :: rest.takeWhile (· != '\n')) ++
                rest.dropWhile (· != '\n')) := holds.pass (by simp)
            rw [skipTrivia_comment inside read (skipLine_after holds),
              List.takeWhile_cons_of_pos (by decide), ih _ shorter passed rfl,
              Grammar.splitTrivia_comment, List.append_assoc]
          · have solid : isBlankByte (leadByte char) = false := by
              rw [isBlankByte_leadByte]
              simpa using blank
            have differs : leadByte char ≠ apostropheByte := by
              intro same
              exact comment ((leadByte_eq_toUInt8_iff (by decide)).mp same)
            rw [skipTrivia_stop read solid differs, Grammar.splitTrivia, if_neg, if_neg comment,
              List.append_nil]
            rw [← isBlank_eq]
            exact blank

/-! ## Quoted text -/

theorem body?_skip (chars : List Char) :
    Text.Quoted.body? chars =
      (Text.Quoted.body? (chars.dropWhile (· != '"'))).map fun read =>
        (chars.takeWhile (· != '"') ++ read.1, read.2) := by
  induction chars with
  | nil => rfl
  | cons char rest ih =>
      by_cases quote : char = '"'
      · subst quote
        simp
      · rw [List.takeWhile_cons_of_pos (by simpa using quote),
          List.dropWhile_cons_of_pos (by simpa using quote), Text.Quoted.body?.eq_4, ih]
        · simp [Function.comp_def]
        · rintro _ rfl
          exact absurd rfl quote
        · rintro rfl
          exact absurd rfl quote

/-- The ending quote is found exactly where the literal's inside ends. -/
theorem closeQuote_after (holds : buffer.Holds (behind ++ ahead)) :
    (after behind : Cursor buffer).closeQuote =
      match Text.Quoted.body? ahead with
      | some (body, _) => .ok (true, after (behind ++ body ++ ['"']))
      | none => .ok (false, after (behind ++ ahead)) := by
  induction length : ahead.length using Nat.strongRecOn generalizing behind ahead with
  | ind count ih =>
    have searched : (after behind : Cursor buffer).skipTo quoteByte = _ :=
      skipTo_after (by decide) holds
    rw [body?_skip]
    rcases search_cases '"' ahead with
      ⟨absent, taken, left⟩ | ⟨before, rest, _, rfl, taken, left⟩
    · have missing : ahead.contains '"' = false := by simpa using absent
      rw [missing, taken] at searched
      rw [closeQuote_missing searched, left]
      rfl
    · have present : (before ++ '"' :: rest).contains '"' = true := by simp
      rw [present, taken] at searched
      rw [taken, left]
      have closing : buffer.Holds (behind ++ before ++ '"' :: rest) := holds.pass rfl
      have moved := advance_after closing (by decide)
      cases rest with
      | nil =>
          have read := current_after_nil closing.passChar
          rw [closeQuote_found searched moved read (by decide)]
          simp [Text.Quoted.body?]
      | cons char rest =>
          have read := current_after_cons closing.passChar
          by_cases pair : char = '"'
          · subst pair
            have stepped := advance_after closing.passChar (by decide)
            have shorter : rest.length < count := by
              rw [← length]
              simp only [List.length_append, List.length_cons]
              omega
            rw [closeQuote_pair searched moved read stepped,
              ih _ shorter closing.passChar.passChar rfl, Text.Quoted.body?]
            cases Text.Quoted.body? rest with
            | none => simp
            | some read => simp
          · have differs : leadByte char ≠ quoteByte := by
              intro same
              exact pair ((leadByte_eq_toUInt8_iff (by decide)).mp same)
            rw [closeQuote_found searched moved read differs, Text.Quoted.body?.eq_3]
            · simp
            · rintro _ same
              exact pair (List.cons.inj same).1

/-! ## Slices -/

/-- The text between two places between characters is the characters between them. -/
theorem slice_after {middle : List Char} (holds : buffer.Holds (behind ++ middle ++ ahead)) :
    slice buffer (byteLength behind) (byteLength (behind ++ middle)) =
      .ok (String.ofList middle) := by
  have length := holds.length
  have inner : buffer.bytes.extract (byteLength behind) (byteLength (behind ++ middle)) =
      (String.ofList middle).toByteArray := by
    rw [holds.bytes]
    exact extract_encoded behind middle ahead _
  rw [slice, if_neg (by simp), if_neg (by rw [length]; simp), inner, fromUTF8?_toByteArray]
  rfl

end Cursor

end FormulaLexer
