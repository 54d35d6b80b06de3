import FormulaLexer.Proofs.Region

/-!
# Folding the letters of a text

Writing the ASCII letters of a text in lower case changes neither the length of a character nor the
form of a lexeme: every character that the grammar names is no letter, and words are compared
without regard to case. So a folded text is cut where the text is cut, with the same lexemes, and
folding passes through every step of the grammar. The main statements are `cut_folded` for one cut
and `tokensFrom_folded` for a whole text.
-/

set_option autoImplicit false

namespace FormulaLexer

open Grammar (byteLength)

/-! ## Characters -/

namespace Text

variable {char target : Char}

/-- Folding makes nothing else into a character that is no letter. -/
theorem toLower_eq_iff (uncased : target.isAlpha = false) :
    char.toLower = target ↔ char = target := by
  constructor
  · rintro rfl
    rw [isAlpha_toLower] at uncased
    exact (toLower_of_uncased uncased).symm
  · rintro rfl
    exact toLower_of_uncased uncased

theorem map_toLower_of_uncased {chars : List Char}
    (uncased : ∀ char ∈ chars, char.isAlpha = false) : chars.map Char.toLower = chars := by
  have kept : ∀ char ∈ chars, char.toLower = id char := by
    intro char member
    exact toLower_of_uncased (uncased char member)
  rw [List.map_congr_left kept, List.map_id]

end Text

/-! ## Classes of characters -/

/-- A class of characters that holds no letter. -/
def Uncased (inClass : Char → Bool) : Prop :=
  ∀ char, inClass char = true → char.isAlpha = false

/-- A class of characters that holds a letter in both cases or in none. -/
def CaseBlind (inClass : Char → Bool) : Prop :=
  ∀ char : Char, inClass char.toLower = inClass char

section

variable {inClass : Char → Bool} {target : Char}

theorem Uncased.caseBlind (uncased : Uncased inClass) : CaseBlind inClass := by
  intro char
  cases letter : char.isAlpha with
  | true =>
      have outside : ∀ other : Char, other.isAlpha = true → inClass other = false := by
        intro other letter
        by_contra inside
        rw [uncased other (by simpa using inside)] at letter
        cases letter
      rw [outside char letter, outside char.toLower ((Text.isAlpha_toLower char).trans letter)]
  | false => rw [Text.toLower_of_uncased letter]

private theorem uncased_contains {chars : List Char} (none : chars.all (!·.isAlpha) = true) :
    Uncased chars.contains := by
  intro char listed
  simpa using List.all_eq_true.mp none char (List.contains_iff_mem.mp listed)

private theorem uncased_beq (uncased : target.isAlpha = false) : Uncased (· == target) := by
  intro char same
  rw [eq_of_beq same]
  exact uncased

theorem caseBlind_bne (uncased : target.isAlpha = false) : CaseBlind (· != target) := by
  intro char
  exact congrArg not ((uncased_beq uncased).caseBlind char)

theorem takeWhile_folded (blind : CaseBlind inClass) (chars : List Char) :
    (chars.map Char.toLower).takeWhile inClass = (chars.takeWhile inClass).map Char.toLower := by
  rw [List.takeWhile_map, (funext blind : inClass ∘ Char.toLower = inClass)]

theorem dropWhile_folded (blind : CaseBlind inClass) (chars : List Char) :
    (chars.map Char.toLower).dropWhile inClass = (chars.dropWhile inClass).map Char.toLower := by
  rw [List.dropWhile_map, (funext blind : inClass ∘ Char.toLower = inClass)]

theorem contains_folded (uncased : target.isAlpha = false) (chars : List Char) :
    (chars.map Char.toLower).contains target = chars.contains target := by
  rw [Bool.eq_iff_iff, List.contains_iff_mem, List.contains_iff_mem, List.mem_map]
  simp only [Text.toLower_eq_iff uncased, exists_eq_right]

end

theorem uncased_isDigit : Uncased Char.isDigit := by
  intro char digit
  cases letter : char.isAlpha with
  | false => rfl
  | true =>
      have digitBounds : 48 ≤ char.toNat ∧ char.toNat ≤ 57 := Char.isDigit_iff_toNat.mp digit
      have letterBounds := Text.isAlpha_iff_toNat.mp letter
      omega

namespace Grammar

theorem uncased_isNumberChar : Uncased isNumberChar := by
  intro char numeric
  rcases Bool.or_eq_true_iff.mp numeric with digit | point
  · exact uncased_isDigit char digit
  · exact uncased_beq (by decide) char point

private theorem uncased_blanks : Uncased blanks.contains := uncased_contains (by decide)

theorem uncased_marks : Uncased marks.contains := uncased_contains (by decide)

theorem caseBlind_isWordChar : CaseBlind isWordChar := by
  intro char
  rw [isWordChar, isWordChar, uncased_blanks.caseBlind, uncased_marks.caseBlind]

theorem uncased_markPairs (first : Char) :
    Uncased fun second => markPairs.contains (first, second) := by
  intro second listed
  have none : markPairs.all (!·.2.isAlpha) = true := by decide
  simpa using List.all_eq_true.mp none _ (List.contains_iff_mem.mp listed)

end Grammar

/-! ## Quoted text -/

namespace Text.Quoted

/-- Nothing but a quote folds to a quote, so folding pairs no quote that stood alone. -/
theorem body?_folded (chars : List Char) :
    body? (chars.map Char.toLower) = (body? chars).map fun (body, after) =>
      (body.map Char.toLower, after.map Char.toLower) := by
  fun_induction body? chars with
  | case1 => rfl
  | case2 rest ih => simp [body?, ih, Option.map_map, Function.comp_def]
  | case3 rest noPair =>
      have apart : ∀ others, rest.map Char.toLower = '"' :: others → False := by
        intro others same
        obtain ⟨second, after, rfl, quote, _⟩ := List.map_eq_cons_iff.mp same
        rw [toLower_eq_iff (by decide)] at quote
        subst quote
        exact noPair after rfl
      rw [List.map_cons, toLower_of_uncased (by decide), body?.eq_3 _ apart]
      rfl
  | case4 char rest noPair noQuote ih =>
      have plain : char.toLower ≠ '"' := by
        intro quote
        exact noQuote ((toLower_eq_iff (by decide)).mp quote)
      simp [body?, plain, ih, Option.map_map, Function.comp_def]

theorem collapse_folded (chars : List Char) :
    collapse (chars.map Char.toLower) = (collapse chars).map Char.toLower := by
  fun_induction collapse chars with
  | case1 rest ih => simp [collapse, ih]
  | case2 char rest noPair ih =>
      have apart : ∀ others, char.toLower = '"' →
          rest.map Char.toLower = '"' :: others → False := by
        intro others quote same
        obtain ⟨second, after, rfl, again, _⟩ := List.map_eq_cons_iff.mp same
        rw [toLower_eq_iff (by decide)] at quote again
        subst quote again
        exact noPair after rfl rfl
      rw [List.map_cons, collapse.eq_2 _ _ apart, ih]
      rfl
  | case3 => rfl

end Text.Quoted

/-! ## Lexemes -/

namespace Grammar

private theorem hasShape_folded {shape : List (Char → Bool)}
    (blind : ∀ inClass ∈ shape, CaseBlind inClass) (chars : List Char) :
    hasShape shape (chars.map Char.toLower) = hasShape shape chars := by
  induction shape generalizing chars with
  | nil => cases chars <;> rfl
  | cons inClass shape ih =>
      obtain ⟨here, later⟩ := List.forall_mem_cons.mp blind
      cases chars with
      | nil => rfl
      | cons char chars => rw [List.map_cons, hasShape, hasShape, here char, ih later]

private theorem uncased_of_hasShape {shape : List (Char → Bool)}
    (uncased : ∀ inClass ∈ shape, Uncased inClass) {chars : List Char}
    (fits : hasShape shape chars = true) : ∀ char ∈ chars, char.isAlpha = false := by
  induction shape generalizing chars with
  | nil =>
      cases chars with
      | nil => exact List.forall_mem_nil _
      | cons => cases fits
  | cons inClass shape ih =>
      obtain ⟨here, later⟩ := List.forall_mem_cons.mp uncased
      cases chars with
      | nil => cases fits
      | cons char chars =>
          obtain ⟨belongs, rest⟩ := Bool.and_eq_true_iff.mp fits
          exact List.forall_mem_cons.mpr ⟨here char belongs, ih later rest⟩

private theorem uncased_dateShape : ∀ inClass ∈ dayShape ++ timeShape, Uncased inClass := by
  have slash : Uncased (· == '/') := uncased_beq (by decide)
  have colon : Uncased (· == ':') := uncased_beq (by decide)
  have divider : Uncased [' ', '\t', '\n', '\x0b', '\x0c', '\r'].contains :=
    uncased_contains (by decide)
  simp [dayShape, timeShape, uncased_isDigit, slash, colon, divider]

theorem isDate_folded (chars : List Char) : isDate (chars.map Char.toLower) = isDate chars := by
  have blind : ∀ inClass ∈ dayShape ++ timeShape, CaseBlind inClass := by
    intro inClass member
    exact (uncased_dateShape inClass member).caseBlind
  rw [isDate, isDate, hasShape_folded blind, hasShape_folded (List.forall_mem_append.mp blind).1]

theorem uncased_of_isDate {chars : List Char} (valid : isDate chars = true) :
    ∀ char ∈ chars, char.isAlpha = false := by
  rcases Bool.or_eq_true_iff.mp valid with day | dayAndTime
  · exact uncased_of_hasShape (List.forall_mem_append.mp uncased_dateShape).1 day
  · exact uncased_of_hasShape uncased_dateShape dayAndTime

theorem wordKind_folded (chars : List Char) :
    wordKind (chars.map Char.toLower) = wordKind chars := by
  have compared : Text.equalIgnoringAsciiCase (String.ofList (chars.map Char.toLower)) =
      Text.equalIgnoringAsciiCase (String.ofList chars) := by
    funext word
    simp only [Text.equalIgnoringAsciiCase, Text.asciiFold, String.toList_ofList, List.map_map,
      Function.comp_def, Text.toLower_toLower]
  rw [wordKind, wordKind, isOperator, isOperator, compared]

/-- The same lexeme, cut from the folded text. -/
def Cut.folded (piece : Cut) : Cut :=
  ⟨piece.lexeme, piece.taken.map Char.toLower, piece.rest.map Char.toLower⟩

theorem Cut.token_folded (piece : Cut) (start : Nat) :
    piece.folded.token start = piece.token start := by
  rw [Cut.token, Cut.token, Cut.folded, Text.byteLength_folded]

section

variable {first : Char} {rest ahead behind : List Char}

private theorem runCut_folded {lexeme : List Char → Lexeme} {inClass : Char → Bool}
    (same : ∀ chars, lexeme (chars.map Char.toLower) = lexeme chars) (blind : CaseBlind inClass)
    (first : Char) (rest : List Char) :
    runCut lexeme inClass first.toLower (rest.map Char.toLower) =
      (runCut lexeme inClass first rest).folded := by
  rw [runCut, runCut, takeWhile_folded blind, dropWhile_folded blind, ← List.map_cons, same]
  rfl

private theorem stringCut_folded (rest : List Char) :
    stringCut (rest.map Char.toLower) = (stringCut rest).folded := by
  have quote : '"'.toLower = '"' := by decide
  rw [stringCut, stringCut, Text.Quoted.body?_folded]
  cases Text.Quoted.body? rest with
  | none => simp [Cut.folded, quote]
  | some found => simp [Cut.folded, quote]

private theorem dateCut_folded (rest : List Char) :
    dateCut (rest.map Char.toLower) = (dateCut rest).folded := by
  have mark : '#'.toLower = '#' := by decide
  have blind : CaseBlind (· != '#') := caseBlind_bne (by decide)
  rw [dateCut, dateCut, takeWhile_folded blind, dropWhile_folded blind, isDate_folded]
  cases rest.dropWhile (· != '#') with
  | nil => simp [Cut.folded, mark]
  | cons closing after => simp [Cut.folded, mark]

private theorem markCut_folded (mark : marks.contains first = true) (rest : List Char) :
    markCut first (rest.map Char.toLower) = (markCut first rest).folded := by
  have kept : first.toLower = first := Text.toLower_of_uncased (uncased_marks first mark)
  cases rest with
  | nil => simp [markCut, Cut.folded, kept]
  | cons second after =>
      have blind := (uncased_markPairs first).caseBlind second
      rw [List.map_cons, markCut, markCut, blind]
      split
      · next pair =>
          have follower := Text.toLower_of_uncased (uncased_markPairs first second pair)
          simp [Cut.folded, kept, follower]
      · simp [Cut.folded, kept]

/-- Cutting a folded text gives the same lexeme, and the folded parts. -/
theorem cut_folded (first : Char) (rest : List Char) :
    cut first.toLower (rest.map Char.toLower) = (cut first rest).folded := by
  rcases cut_forms first with
    ⟨rfl, form⟩ | ⟨rfl, form⟩ | ⟨digit, form⟩ | ⟨mark, form⟩ | ⟨plain, form⟩
  · rw [Text.toLower_of_uncased (by decide), form, stringCut_folded]
  · rw [Text.toLower_of_uncased (by decide), form, dateCut_folded]
  · have kept := Text.toLower_of_uncased (uncased_isDigit first digit)
    rw [kept, form, ← runCut_folded (fun _ => rfl) uncased_isNumberChar.caseBlind, kept]
  · rw [Text.toLower_of_uncased (uncased_marks first mark), form, markCut_folded mark]
  · obtain ⟨noQuote, noDateMark, noDigit, noMark⟩ := plain
    have lowerQuote := (not_congr (Text.toLower_eq_iff (by decide))).mpr noQuote
    have lowerDateMark := (not_congr (Text.toLower_eq_iff (by decide))).mpr noDateMark
    have lowerDigit := (uncased_isDigit.caseBlind first).trans noDigit
    have lowerMark := (uncased_marks.caseBlind first).trans noMark
    have kinds : ∀ chars,
        Lexeme.sound (wordKind (chars.map Char.toLower)) = .sound (wordKind chars) := by
      intro chars
      rw [wordKind_folded]
    rw [cut, if_neg lowerQuote, if_neg lowerDateMark, if_neg (ne_true_of_eq_false lowerDigit),
      if_neg (ne_true_of_eq_false lowerMark), form, runCut_folded kinds caseBlind_isWordChar]

private theorem splitTrivia_folded (chars : List Char) :
    splitTrivia (chars.map Char.toLower) =
      ((splitTrivia chars).1.map Char.toLower, (splitTrivia chars).2.map Char.toLower) := by
  have blind : CaseBlind (· != '\n') := caseBlind_bne (by decide)
  fun_induction splitTrivia chars with
  | case1 => rw [List.map_nil, splitTrivia]
  | case2 char rest blank skipped after split ih =>
      rw [split] at ih
      rw [List.map_cons, splitTrivia, uncased_blanks.caseBlind, if_pos blank, ih]
      rfl
  | case3 rest skipped after split noBlank ih =>
      rw [split, ← dropWhile_folded blind] at ih
      have mark : '\x27'.toLower = '\x27' := by decide
      rw [List.map_cons, mark, splitTrivia, if_neg noBlank, if_pos rfl, ih, takeWhile_folded blind]
      simp [mark]
  | case4 char rest noBlank noComment =>
      have plain : char.toLower ≠ '\x27' := by
        intro same
        exact noComment ((Text.toLower_eq_iff (by decide)).mp same)
      rw [List.map_cons, splitTrivia, uncased_blanks.caseBlind, if_neg noBlank, if_neg plain]
      rfl

theorem Reads.folded {found : List (Token × Option Problem)}
    (derivation : Reads behind ahead found) :
    Reads (behind.map Char.toLower) (ahead.map Char.toLower) found := by
  induction derivation with
  | @done behind ahead skipped split =>
      have same : splitTrivia (ahead.map Char.toLower) = (skipped.map Char.toLower, []) := by
        rw [splitTrivia_folded, split]
        rfl
      exact .done same
  | @step behind ahead skipped rest first found split _ ih =>
      have same : splitTrivia (ahead.map Char.toLower) =
          (skipped.map Char.toLower, first.toLower :: rest.map Char.toLower) := by
        rw [splitTrivia_folded, split]
        rfl
      have place : byteLength (behind.map Char.toLower ++ skipped.map Char.toLower) =
          byteLength (behind ++ skipped) := by
        rw [← List.map_append, Text.byteLength_folded]
      have step := @Reads.step (behind.map Char.toLower) _ _ _ _ found same
      rw [place, cut_folded, Cut.token_folded] at step
      rw [List.map_append, List.map_append] at ih
      exact step ih

/-- A folded text has the tokens of the text, at the same places and with the same problems. -/
theorem tokensFrom_folded (chars : List Char) :
    tokensFrom 0 (chars.map Char.toLower) = tokensFrom 0 chars :=
  tokensFrom_of_reads (reads_tokensFrom [] chars).folded

end

end Grammar

end FormulaLexer
