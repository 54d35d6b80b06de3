import FormulaLexer.Proofs.Agreement
import FormulaLexer.Proofs.Folding

/-!
# Tokens read as operators

The kind of a token is decided while it is scanned: by its first character for a mark, by its
spelling for a word. The operator is looked up afterwards, in the text of the token alone. The two
agree on every token, since no literal, keyword, punctuation mark or identifier spells an operator.
Only the backtick and the superscript two are operators by kind that spell none.
-/

set_option autoImplicit false

namespace FormulaLexer

private theorem Lexeme.kind_sound (kind : TokenKind) : (Lexeme.sound kind).kind = kind := rfl

namespace Grammar

variable {first : Char} {rest text : List Char}

/-! ## Spellings -/

/-- The marks that count as operators and spell none. -/
def loneMarks : List (List Char) := [['\x60'], ['\u00b2']]

/-- The spelling of an operator begins with a letter or a mark. -/
theorem opening_of_isOperator (real : isOperator (first :: rest) = true) :
    first.isAlpha = true ∨ marks.contains first = true := by
  have openings : operators.all (fun spelling =>
      spelling.toList.head?.all fun char => char.isAlpha || marks.contains char) = true := by
    decide
  obtain ⟨spelling, listed, spelled⟩ := List.any_eq_true.mp real
  rw [Text.equalIgnoringAsciiCase_iff, asciiFold_operators spelling listed, Text.asciiFold,
    String.toList_ofList, List.map_cons] at spelled
  have opening := List.all_eq_true.mp openings spelling listed
  rw [← spelled, List.head?_cons, Option.all_some, Text.isAlpha_toLower,
    uncased_marks.caseBlind] at opening
  exact Bool.or_eq_true_iff.mp opening

private theorem mark_of_loneMark (lone : first :: rest ∈ loneMarks) :
    marks.contains first = true := by
  simp only [loneMarks, List.mem_cons, List.cons.injEq, List.not_mem_nil, or_false] at lone
  rcases lone with ⟨rfl, _⟩ | ⟨rfl, _⟩
  · decide
  · decide

/-- What begins with neither a letter nor a mark is no operator of either sort. -/
theorem not_operator_of_opening (noLetter : first.isAlpha = false)
    (noMark : marks.contains first = false) :
    ¬ (isOperator (first :: rest) = true ∨ first :: rest ∈ loneMarks) := by
  rintro (real | lone)
  · rcases opening_of_isOperator real with letter | mark
    · exact absurd letter (ne_true_of_eq_false noLetter)
    · exact absurd mark (ne_true_of_eq_false noMark)
  · exact absurd (mark_of_loneMark lone) (ne_true_of_eq_false noMark)

private theorem digit_not_mark (digit : first.isDigit = true) : marks.contains first = false := by
  have apart : ∀ mark ∈ marks, mark.isDigit = false := List.all_iff_forall_prop.mp (by decide)
  by_contra mark
  rw [apart first (by simpa using mark)] at digit
  cases digit

/-! ## Kinds -/

def literalKinds : List TokenKind := [.string, .date, .error, .number]

/-- Lexemes are literals, which begin with neither a letter nor a mark, marks, or words. -/
theorem cut_sorts (first : Char) :
    ((first.isAlpha = false ∧ marks.contains first = false) ∧
        ∀ rest, (cut first rest).lexeme.kind ∈ literalKinds) ∨
      (marks.contains first = true ∧ cut first = markCut first) ∨
      (marks.contains first = false ∧
        cut first = runCut (fun taken => .sound (wordKind taken)) isWordChar first) := by
  have string : TokenKind.string ∈ literalKinds := by decide
  have date : TokenKind.date ∈ literalKinds := by decide
  have error : TokenKind.error ∈ literalKinds := by decide
  have number : TokenKind.number ∈ literalKinds := by decide
  rcases cut_forms first with ⟨rfl, form⟩ | ⟨rfl, form⟩ | ⟨digit, form⟩ | mark |
    ⟨⟨_, _, _, noMark⟩, form⟩
  · refine .inl ⟨⟨by decide, by decide⟩, ?_⟩
    intro rest
    rw [form, stringCut]
    split
    · exact string
    · exact string
  · refine .inl ⟨⟨by decide, by decide⟩, ?_⟩
    intro rest
    rw [form, dateCut]
    split
    · exact error
    · cases isDate _ with
      | true => exact date
      | false => exact error
  · refine .inl ⟨⟨uncased_isDigit first digit, digit_not_mark digit⟩, ?_⟩
    intro rest
    rw [form]
    exact number
  · exact .inr (.inl mark)
  · exact .inr (.inr ⟨noMark, form⟩)

/-- The texts that marks can have. -/
def markTexts : List (List Char) :=
  marks.map ([·]) ++ markPairs.map fun (first, second) => [first, second]

theorem markCut_text (mark : marks.contains first = true) (rest : List Char) :
    (markCut first rest).taken ∈ markTexts ∧
      (markCut first rest).lexeme = .sound (markKind (markCut first rest).taken) := by
  have single : [first] ∈ markTexts :=
    List.mem_append_left _ (List.mem_map_of_mem (List.contains_iff_mem.mp mark))
  unfold markCut
  split
  · next second after =>
      split
      · next paired =>
          refine ⟨List.mem_append_right _ ?_, rfl⟩
          exact List.mem_map.mpr ⟨(first, second), List.contains_iff_mem.mp paired, rfl⟩
      · exact ⟨single, rfl⟩
  · exact ⟨single, rfl⟩

private theorem markKind_eq_operator_iff (listed : text ∈ markTexts) :
    markKind text = .operator ↔ isOperator text = true ∨ text ∈ loneMarks := by
  have every : ∀ text ∈ markTexts,
      markKind text = .operator ↔ isOperator text = true ∨ text ∈ loneMarks := by decide +kernel
  exact every text listed

theorem wordKind_eq_operator_iff (text : List Char) :
    wordKind text = .operator ↔ isOperator text = true := by
  have reserved : ∀ entry ∈ keywords, entry.2 ≠ .operator := by decide
  unfold wordKind
  split
  · next real => exact iff_of_true rfl real
  · next unreal =>
      refine iff_of_false ?_ unreal
      split
      · next word kind found => exact reserved _ (List.mem_of_find?_eq_some found)
      · exact TokenKind.noConfusion

theorem taken_eq_cons (first : Char) (rest : List Char) :
    ∃ others, (cut first rest).taken = first :: others := by
  obtain ⟨whole, nonempty⟩ := taken_append_rest first rest
  obtain ⟨char, others, taken⟩ := List.exists_cons_of_ne_nil nonempty
  rw [taken, List.cons_append] at whole
  exact ⟨others, by rw [taken, (List.cons.inj whole).1]⟩

/-- A lexeme is an operator exactly if it spells one or is one of the two marks that count as
operators. -/
theorem kind_eq_operator_iff (first : Char) (rest : List Char) :
    (cut first rest).lexeme.kind = .operator ↔
      isOperator (cut first rest).taken = true ∨ (cut first rest).taken ∈ loneMarks := by
  rcases cut_sorts first with ⟨⟨noLetter, noMark⟩, literal⟩ | ⟨mark, form⟩ | ⟨noMark, form⟩
  · obtain ⟨others, taken⟩ := taken_eq_cons first rest
    rw [taken]
    refine iff_of_false ?_ (not_operator_of_opening noLetter noMark)
    exact ne_of_mem_of_not_mem (literal rest) (by decide)
  · obtain ⟨listed, sound⟩ := markCut_text mark rest
    rw [form, sound, Lexeme.kind_sound]
    exact markKind_eq_operator_iff listed
  · have unmarked : first :: rest.takeWhile isWordChar ∉ loneMarks := by
      intro lone
      exact absurd (mark_of_loneMark lone) (ne_true_of_eq_false noMark)
    simp only [form, runCut, Lexeme.kind_sound]
    rw [or_iff_left unmarked]
    exact wordKind_eq_operator_iff _

end Grammar

/-! ## Views -/

private theorem Operator.ofSpelling_loneMark {text : String}
    (lone : text = "\x60" ∨ text = "\u00b2") : ofSpelling text = .invalid := by
  rcases lone with rfl | rfl
  · decide
  · decide

namespace TokenView

variable {view : TokenView} {index : Nat} {token : Token}

theorem rawText_eq (held : view.tokens.get? index = some token) :
    view.rawText index = .ok (token.text view.source) := by
  simp [rawText, TokenView.token, held, bind, Except.bind, pure, Except.pure]

theorem operator_eq (held : view.tokens.get? index = some token) :
    view.operator index = .ok (Operator.ofSpelling (token.text view.source)) := by
  rw [operator, rawText_eq held]
  rfl

end TokenView

section

variable {source : String} {token : Token} {problem : Option Problem}

theorem kind_eq_operator_iff_ofSpelling
    (member : (token, problem) ∈ Grammar.tokensFrom 0 source.toList) :
    token.kind = .operator ↔
      Operator.ofSpelling (token.text source) ≠ .invalid ∨
        token.text source = "\x60" ∨ token.text source = "\u00b2" := by
  obtain ⟨before, first, rest, whole, _, cutHere⟩ := cut_of_mem member
  cases cutHere
  have spells := Operator.isSpelling_ofList (Grammar.cut first rest).taken
  have backtick : "\x60" = String.ofList ['\x60'] := rfl
  have superscript : "\u00b2" = String.ofList ['\u00b2'] := rfl
  rw [text_of_cut whole, ← bne_iff_ne, ← Operator.isSpelling, spells, backtick, superscript,
    String.ofList_inj, String.ofList_inj]
  have kinds := Grammar.kind_eq_operator_iff first rest
  simp only [Grammar.loneMarks, List.mem_cons, List.not_mem_nil, or_false] at kinds
  exact kinds

end

/-- Read as an operator, a token of a source gives a real one exactly if its kind is that of
operators and its text is neither a lone backtick nor a lone superscript two. Those two always have
the kind of operators, and give none. -/
theorem tokenize_resolves_operators (source : String) :
    match tokenize source with
    | .ok buffer => ∀ index token, buffer.get? index = some token →
        ∃ text operator, (TokenView.mk source buffer).rawText index = .ok text ∧
          (TokenView.mk source buffer).operator index = .ok operator ∧
          (operator ≠ .invalid ↔ token.kind = .operator ∧ text ≠ "\x60" ∧ text ≠ "\u00b2") ∧
          (text = "\x60" ∨ text = "\u00b2" → token.kind = .operator ∧ operator = .invalid)
    | .error _ => maxOffset < source.utf8ByteSize := by
  apply tokenize_elim
  intro result tokens index token held
  obtain ⟨problem, member⟩ := mem_of_get? tokens held
  have kind := kind_eq_operator_iff_ofSpelling member
  refine ⟨token.text source, Operator.ofSpelling (token.text source),
    TokenView.rawText_eq held, TokenView.operator_eq held, ?_, ?_⟩
  · constructor
    · intro real
      have spelled := fun lone => real (Operator.ofSpelling_loneMark lone)
      exact ⟨kind.mpr (.inl real), not_or.mp spelled⟩
    · rintro ⟨isOperator, neither⟩
      exact (kind.mp isOperator).resolve_right (not_or.mpr neither)
  · intro lone
    exact ⟨kind.mpr (.inr lone), Operator.ofSpelling_loneMark lone⟩

example :
    let source := "x\u00b2 \u00b2[<>\x60oRElse"
    (tokenize source).toOption.map (fun buffer => buffer.tokens.toList.map fun token =>
        (token.kind, Operator.ofSpelling (token.text source))) =
      some [(.identifier, .invalid), (.operator, .invalid), (.openIndexAlt, .invalid),
        (.operator, .ne), (.operator, .invalid), (.operator, .orElse)] := by
  decide +kernel

end FormulaLexer
