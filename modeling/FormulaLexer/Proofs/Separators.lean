import FormulaLexer.Proofs.Operators

/-!
# Separators and kinds

Whether a token begins with a separator is read off its text, by the set of characters that end a
word. Its kind was decided by the scanner, by the table of marks. The two agree: the tokens that
begin with a separator are the marks, literals and words begin with none, and a word holds none at
all.
-/

set_option autoImplicit false

namespace FormulaLexer

/-- The text is made of letters only, as the words among the operators are. -/
def spelledWithLetters (text : String) : Bool :=
  text.toList.all Char.isAlpha

/-- Punctuation, and the operators that are symbols. -/
def IsMark (text : String) (kind : TokenKind) : Prop :=
  kind.isPunctuation = true ∨ kind = .operator ∧ spelledWithLetters text = false

instance (text : String) (kind : TokenKind) : Decidable (IsMark text kind) :=
  inferInstanceAs (Decidable (_ ∨ _))

/-- Names, reserved words, and the operators that are words. -/
def IsWord (text : String) (kind : TokenKind) : Prop :=
  kind = .identifier ∨ kind.isKeyword = true ∨
    kind = .operator ∧ spelledWithLetters text = true

/-- `Outlined text kind`: how the separators in the text of a lexeme go along with its kind. -/
inductive Outlined (text : String) (kind : TokenKind) : Prop where
  | literal :
      kind ∈ Grammar.literalKinds → startsWithSeparator text = false → Outlined text kind
  | mark :
      IsMark text kind → startsWithSeparator text = true → Outlined text kind
  | word :
      IsWord text kind → (∀ char ∈ text.toList, isSeparator char = false) → Outlined text kind

section

variable {text : String} {kind : TokenKind}

private theorem not_isWord_of_isMark (mark : IsMark text kind) : ¬ IsWord text kind := by
  unfold IsMark at mark
  unfold IsWord
  generalize spelledWithLetters text = letters at mark ⊢
  revert mark
  cases kind <;> cases letters <;> decide

private theorem plain_of_literalKind (literal : kind ∈ Grammar.literalKinds) :
    ¬ IsMark text kind ∧ ¬ IsWord text kind := by
  unfold IsMark IsWord
  generalize spelledWithLetters text = letters
  revert literal
  cases kind <;> cases letters <;> decide

private theorem startsWithSeparator_of_none
    (none : ∀ char ∈ text.toList, isSeparator char = false) :
    startsWithSeparator text = false := by
  unfold startsWithSeparator
  cases opening : text.toList.head? with
  | none => rfl
  | some char => exact none char (List.mem_of_head? opening)

private theorem Outlined.starts_iff (outlined : Outlined text kind) :
    startsWithSeparator text = true ↔ IsMark text kind := by
  cases outlined with
  | literal listed starts =>
      exact iff_of_false (ne_true_of_eq_false starts) (plain_of_literalKind listed).1
  | mark mark starts => exact iff_of_true starts mark
  | word word none =>
      have starts := startsWithSeparator_of_none none
      exact iff_of_false (ne_true_of_eq_false starts)
        fun mark => not_isWord_of_isMark mark word

private theorem Outlined.none_of_isWord (outlined : Outlined text kind) (word : IsWord text kind) :
    ∀ char ∈ text.toList, isSeparator char = false := by
  cases outlined with
  | literal listed _ => exact absurd word (plain_of_literalKind listed).2
  | mark mark _ => exact absurd word (not_isWord_of_isMark mark)
  | word _ none => exact none

end

/-! ## Lexemes -/

namespace Grammar

variable {first : Char} {rest text : List Char}

private theorem outlined_literal (solid : isBlank first = false)
    (noMark : marks.contains first = false)
    {kind : TokenKind} (literal : kind ∈ literalKinds) (others : List Char) :
    Outlined (String.ofList (first :: others)) kind := by
  refine .literal literal ?_
  simp only [startsWithSeparator, String.toList_ofList, List.head?_cons, Option.any_some,
    isSeparator_eq, solid, isSome_ofChar?_eq, noMark, Bool.or_false]

private theorem outlined_mark (listed : text ∈ markTexts) :
    Outlined (String.ofList text) (markKind text) := by
  have every : ∀ text ∈ markTexts,
      IsMark (String.ofList text) (markKind text) ∧
        startsWithSeparator (String.ofList text) = true := by decide +kernel
  obtain ⟨mark, starts⟩ := every text listed
  exact .mark mark starts

/-- An operator whose spelling begins with no mark is spelled with letters throughout. -/
theorem letters_of_isOperator (noMark : marks.contains first = false)
    (real : isOperator (first :: rest) = true) : (first :: rest).all Char.isAlpha = true := by
  have spellings : ∀ spelling ∈ operators,
      spelling.toList.all Char.isAlpha = true ∨
        spelling.toList.head?.any marks.contains = true := by decide
  obtain ⟨spelling, listed, spelled⟩ := List.any_eq_true.mp real
  rw [Text.equalIgnoringAsciiCase_iff, asciiFold_operators spelling listed, Text.asciiFold,
    String.toList_ofList] at spelled
  rcases spellings spelling listed with letters | mark
  · simpa only [← spelled, List.all_map, Function.comp_def, Text.isAlpha_toLower]
      using letters
  · simp only [← spelled, List.map_cons, List.head?_cons, Option.any_some,
      uncased_marks.caseBlind first, noMark, Bool.false_eq_true] at mark

private theorem outlined_word (joins : ∀ char ∈ first :: rest, isWordChar char = true) :
    Outlined (String.ofList (first :: rest)) (wordKind (first :: rest)) := by
  have noMark : marks.contains first = false := by
    have opening := joins first List.mem_cons_self
    simp only [isWordChar, Bool.and_eq_true, Bool.not_eq_true'] at opening
    exact opening.2
  have keywordKinds : ∀ kind ∈ keywords.map (·.2), kind.isKeyword = true := by decide
  refine .word ?_ ?_
  · rcases List.mem_cons.mp (wordKind_mem (first :: rest)) with operator | other
    · have real := (wordKind_eq_operator_iff _).mp operator
      have letters := letters_of_isOperator noMark real
      exact .inr (.inr ⟨operator, by rwa [spelledWithLetters, String.toList_ofList]⟩)
    · rcases List.mem_cons.mp other with identifier | keyword
      · exact .inl identifier
      · exact .inr (.inl (keywordKinds _ keyword))
  · intro char member
    rw [String.toList_ofList] at member
    simpa only [isWordChar_eq, Bool.not_eq_true'] using joins char member

private theorem outlined_cut (solid : isBlank first = false) (rest : List Char) :
    Outlined (String.ofList (cut first rest).taken) (cut first rest).lexeme.kind := by
  rcases cut_sorts first with ⟨⟨_, noMark⟩, literal⟩ | ⟨mark, form⟩ | ⟨noMark, form⟩
  · obtain ⟨others, taken⟩ := taken_eq_cons first rest
    rw [taken]
    exact outlined_literal solid noMark (literal rest) others
  · obtain ⟨listed, sound⟩ := markCut_text mark rest
    rw [form, sound]
    exact outlined_mark listed
  · rw [form]
    refine outlined_word ?_
    intro char member
    rcases List.mem_cons.mp member with rfl | later
    · rw [isBlank_eq] at solid
      simp only [isWordChar, solid, noMark, Bool.not_false, Bool.and_true]
    · exact List.mem_takeWhile_imp later

end Grammar

/-! ## Sources -/

theorem TokenView.startsWithSeparator_eq {view : TokenView} {index : Nat} {token : Token}
    (held : view.tokens.get? index = some token) :
    view.startsWithSeparator index =
      .ok (FormulaLexer.startsWithSeparator (token.text view.source)) := by
  rw [TokenView.startsWithSeparator, rawText_eq held]
  rfl

theorem outlined_of_mem {source : String} {token : Token} {problem : Option Problem}
    (member : (token, problem) ∈ Grammar.tokensFrom 0 source.toList) :
    Outlined (token.text source) token.kind := by
  obtain ⟨before, first, rest, whole, solid, cutHere⟩ := cut_of_mem member
  cases cutHere
  rw [text_of_cut whole]
  exact Grammar.outlined_cut solid.1 rest

/-- A token of a source begins with a separator exactly if it is a punctuation mark, or an operator
that is not spelled with letters. Names, reserved words and the operators spelled with letters hold
no separator anywhere. -/
theorem tokenize_outlines_separators (source : String) :
    match tokenize source with
    | .ok buffer => ∀ index token, buffer.get? index = some token →
        ∃ text starts, (TokenView.mk source buffer).rawText index = .ok text ∧
          (TokenView.mk source buffer).startsWithSeparator index = .ok starts ∧
          (starts = true ↔ IsMark text token.kind) ∧
          (IsWord text token.kind → ∀ char ∈ text.toList, isSeparator char = false)
    | .error _ => maxOffset < source.utf8ByteSize := by
  apply tokenize_elim
  intro result tokens index token held
  obtain ⟨problem, member⟩ := mem_of_get? tokens held
  have outlined := outlined_of_mem member
  exact ⟨token.text source, startsWithSeparator (token.text source), TokenView.rawText_eq held,
    TokenView.startsWithSeparator_eq held, outlined.starts_iff, outlined.none_of_isWord⟩

example :
    let source := "\u00b5\u00b2[\u00a3=>bitOR\u00b2 'x\n\x60"
    (tokenize source).toOption.map (fun buffer => buffer.tokens.toList.map fun token =>
        (token.kind, startsWithSeparator (token.text source))) =
      some [(.identifier, false), (.openIndexAlt, true), (.identifier, false), (.fatArrow, true),
        (.operator, false), (.operator, true), (.operator, true)] := by
  decide +kernel

end FormulaLexer
