import FormulaLexer.Proofs.Extension
import FormulaLexer.Proofs.Operators

/-!
# Numbers and their texts

A number goes on as long as there are digits and points; a numeral has one point at most. So a
number is read exactly if it has no second point, with digits on either side of the first one or
only in front of it. Behind a second point there is neither a digit nor an exponent, and a number
begins with a digit, so it has no sign and is none of the words for other values.
-/

set_option autoImplicit false

namespace FormulaLexer

namespace Numeral

variable {first : Char} {whole fraction rest chars : List Char} {negative : Bool} {text : String}

/-! ## Points -/

/-- A text of digits and points is digits only, or it has a first point. -/
theorem point_cases (numeric : ∀ char ∈ chars, Grammar.isNumberChar char = true) :
    (∀ char ∈ chars, char.isDigit = true) ∨
      ∃ digits after, chars = digits ++ '.' :: after ∧ ∀ char ∈ digits, char.isDigit = true := by
  have digits_of_absent : ∀ part : List Char, part ⊆ chars → '.' ∉ part →
      ∀ char ∈ part, char.isDigit = true := by
    intro part among absent char member
    have digitOrPoint := numeric char (among member)
    simp only [Grammar.isNumberChar, Bool.or_eq_true, beq_iff_eq] at digitOrPoint
    rcases digitOrPoint with digit | rfl
    · exact digit
    · exact absurd member absent
  rcases search_cases '.' chars with ⟨absent, _, _⟩ | ⟨before, after, absent, parts, _, _⟩
  · exact .inl (digits_of_absent chars (List.Subset.refl chars) absent)
  · refine .inr ⟨before, after, parts, digits_of_absent before ?_ absent⟩
    rw [parts]
    exact List.subset_append_left _ _

private theorem count_point_of_digits (digits : ∀ char ∈ chars, char.isDigit = true) :
    chars.count '.' = 0 := by
  refine List.count_eq_zero.mpr ?_
  intro member
  exact absurd (digits '.' member) (by decide)

/-- The forms of a text of digits and points, by its points: none, one, or a second one. -/
inductive Pointed : List Char → Prop where
  | none {whole : List Char} :
      (∀ char ∈ whole, char.isDigit = true) → Pointed whole
  | one {whole fraction : List Char} :
      (∀ char ∈ whole, char.isDigit = true) → (∀ char ∈ fraction, char.isDigit = true) →
      Pointed (whole ++ '.' :: fraction)
  | several {whole fraction rest : List Char} :
      (∀ char ∈ whole, char.isDigit = true) → (∀ char ∈ fraction, char.isDigit = true) →
      Pointed (whole ++ '.' :: (fraction ++ '.' :: rest))

private theorem pointed_of_numeric (numeric : ∀ char ∈ chars, Grammar.isNumberChar char = true) :
    Pointed chars := by
  rcases point_cases numeric with digits | ⟨whole, after, rfl, digits⟩
  · exact .none digits
  have later : ∀ char ∈ after, Grammar.isNumberChar char = true := by
    intro char member
    exact numeric char (List.mem_append_right _ (List.mem_cons_of_mem _ member))
  rcases point_cases later with fraction | ⟨fraction, rest, rfl, fractionDigits⟩
  · exact .one digits fraction
  · exact .several digits fractionDigits

/-! ## Reading -/

private theorem run_digits (digits : ∀ char ∈ whole, char.isDigit = true)
    (ends : ∀ char, rest.head? = some char → char.isDigit = false) :
    (whole ++ rest).takeWhile Char.isDigit = whole ∧
      (whole ++ rest).dropWhile Char.isDigit = rest := by
  have run := run_append fun (_ : whole.dropWhile Char.isDigit = []) => ends
  rwa [List.takeWhile_eq_self_iff.mpr digits, List.dropWhile_eq_nil_iff.mpr digits] at run

private theorem splitFraction_point (digits : ∀ char ∈ fraction, char.isDigit = true)
    (ends : ∀ char, rest.head? = some char → char.isDigit = false) :
    splitFraction ('.' :: (fraction ++ rest)) = (fraction, rest) := by
  obtain ⟨taken, left⟩ := run_digits digits ends
  simp only [splitFraction, taken, left]

/-- Behind the digits in front come the digits behind a point, and what is left must be an
exponent. -/
theorem decimal?_append (negative : Bool) (digits : ∀ char ∈ whole, char.isDigit = true)
    (nonempty : whole ≠ []) (ends : ∀ char, rest.head? = some char → char.isDigit = false) :
    decimal? negative (whole ++ rest) =
      (exponent? (splitFraction rest).2).map fun exponent =>
        .finite negative (digitsValue (whole ++ (splitFraction rest).1))
          (exponent - (splitFraction rest).1.length) := by
  obtain ⟨taken, left⟩ := run_digits digits ends
  have present : whole.isEmpty = false := by simpa using nonempty
  simp only [decimal?, taken, left, present, Bool.false_and, Bool.false_eq_true, ↓reduceIte]

/-- The reader stops at a second point, which begins no exponent. -/
theorem Pointed.decimal?_cases (pointed : Pointed chars)
    (opens : chars.head?.any Char.isDigit = true) (negative : Bool) :
    (chars.count '.' ≤ 1 ∧ ∃ numeral, decimal? negative chars = some numeral) ∨
      (1 < chars.count '.' ∧ decimal? negative chars = .none) := by
  have nothing : ∀ char, ([] : List Char).head? = some char → char.isDigit = false := by
    intro char same
    cases same
  have point : ∀ after char, ('.' :: after).head? = some char → char.isDigit = false := by
    intro after char same
    cases same
    rfl
  have nonempty : ∀ whole after, chars = whole ++ '.' :: after → whole ≠ [] := by
    rintro whole after rfl rfl
    cases opens
  cases pointed with
  | none digits =>
      have present : chars ≠ [] := by
        rintro rfl
        cases opens
      have read := decimal?_append negative digits present nothing
      rw [List.append_nil] at read
      refine .inl ⟨?_, _, read⟩
      simp only [count_point_of_digits digits, Nat.zero_le]
  | @one whole fraction digits fractionDigits =>
      have read := decimal?_append negative digits (nonempty whole _ rfl) (point fraction)
      have split := splitFraction_point fractionDigits nothing
      rw [List.append_nil] at split
      rw [split] at read
      refine .inl ⟨?_, _, read⟩
      simp only [List.count_append, List.count_cons_self, count_point_of_digits digits,
        count_point_of_digits fractionDigits, Nat.zero_add, Nat.le_refl]
  | @several whole fraction rest digits fractionDigits =>
      have read := decimal?_append negative digits (nonempty whole _ rfl)
        (point (fraction ++ '.' :: rest))
      rw [splitFraction_point fractionDigits (point rest)] at read
      refine .inr ⟨?_, read⟩
      simp only [List.count_append, List.count_cons_self, count_point_of_digits digits,
        count_point_of_digits fractionDigits]
      omega

private theorem word?_of_digit (digit : first.isDigit = true) :
    word? negative (first :: rest) = none := by
  have same : first.toLower = first := Text.toLower_of_uncased (uncased_isDigit first digit)
  have apart : ∀ letter others, letter.isDigit = false →
      String.ofList ((first :: rest).map Char.toLower) ≠ String.ofList (letter :: others) := by
    intro letter others noDigit spelled
    rw [String.ofList_inj, List.map_cons, same] at spelled
    rw [(List.cons.inj spelled).1, noDigit] at digit
    cases digit
  unfold word?
  split
  · next spelled => exact absurd spelled (apart 'i' ['n', 'f'] (by decide))
  · next spelled =>
      exact absurd spelled (apart 'i' ['n', 'f', 'i', 'n', 'i', 't', 'y'] (by decide))
  · next spelled => exact absurd spelled (apart 'n' ['a', 'n'] (by decide))
  · rfl

private theorem splitSign_of_digit (digit : first.isDigit = true) :
    splitSign (first :: rest) = (false, first :: rest) := by
  unfold splitSign
  split
  · next other => cases other; exact absurd digit (by decide)
  · next other => cases other; exact absurd digit (by decide)
  · rfl

private theorem ofText_of_digit (spelled : text.toList = first :: rest)
    (digit : first.isDigit = true) :
    ofText text = (decimal? false (first :: rest)).elim (.error .invalid) .ok := by
  have present : text.isEmpty = false := by
    rw [Bool.eq_false_iff, ne_eq, String.isEmpty_iff]
    rintro rfl
    cases spelled
  simp only [ofText, present, Bool.false_eq_true, ↓reduceIte, spelled, splitSign_of_digit digit,
    word?_of_digit digit, Option.or_none]
  cases decimal? false (first :: rest) with
  | none => rfl
  | some numeral => rfl

/-- A text of digits and points that begins with a digit is a numeral exactly if it has one point at
most. -/
theorem ofText_number (spelled : text.toList = first :: rest) (digit : first.isDigit = true)
    (numeric : ∀ char ∈ first :: rest, Grammar.isNumberChar char = true) :
    (text.toList.count '.' ≤ 1 ∧ ∃ numeral, ofText text = .ok numeral) ∨
      (1 < text.toList.count '.' ∧ ofText text = .error .invalid) := by
  have read := ofText_of_digit spelled digit
  rcases (pointed_of_numeric numeric).decimal?_cases digit false with
    ⟨few, numeral, decimal⟩ | ⟨many, stuck⟩
  · rw [decimal] at read
    exact .inl ⟨spelled ▸ few, numeral, read⟩
  · rw [stuck] at read
    exact .inr ⟨spelled ▸ many, read⟩

end Numeral

/-! ## Tokens -/

namespace Grammar

variable {first : Char} {rest : List Char}

/-- Only a lexeme that begins with a digit is a number, and it is a run of digits and points. -/
theorem number_of_kind (kind : (cut first rest).lexeme.kind = .number) :
    first.isDigit = true ∧
      (cut first rest).taken = first :: rest.takeWhile isNumberChar := by
  rcases cut_forms first with ⟨_, form⟩ | ⟨_, form⟩ | ⟨digit, form⟩ | ⟨mark, form⟩ | ⟨_, form⟩
  · rw [form, stringCut] at kind
    split at kind
    · cases kind
    · cases kind
  · rw [form, dateCut] at kind
    split at kind
    · cases kind
    · cases valid : isDate (rest.takeWhile (· != '#')) with
      | true => rw [valid] at kind; cases kind
      | false => rw [valid] at kind; cases kind
  · rw [form]
    exact ⟨digit, rfl⟩
  · have apart : ∀ text ∈ markTexts, markKind text ≠ .number := by decide +kernel
    obtain ⟨listed, sound⟩ := markCut_text mark rest
    rw [form, sound] at kind
    exact absurd kind (apart _ listed)
  · have apart : ∀ kind ∈ .operator :: .identifier :: keywords.map (·.2), kind ≠ .number := by
      decide
    rw [form] at kind
    exact absurd kind (apart _ (wordKind_mem _))

end Grammar

theorem TokenView.number_eq {view : TokenView} {index : Nat} {token : Token}
    (held : view.tokens.get? index = some token) (kind : token.kind = .number) :
    view.number index = decodeNumber (token.text view.source) := by
  rw [TokenView.number, ← kind, tokenOfKind_eq held]
  rfl

private theorem decodeNumber_of_mem {source : String} {token : Token} {problem : Option Problem}
    (member : (token, problem) ∈ Grammar.tokensFrom 0 source.toList) (kind : token.kind = .number) :
    ((token.text source).toList.count '.' ≤ 1 ∧
        ∃ value, decodeNumber (token.text source) = .ok value) ∨
      (1 < (token.text source).toList.count '.' ∧
        decodeNumber (token.text source) =
          .error (.malformedNumber (token.text source) .invalid)) := by
  obtain ⟨before, first, rest, whole, _, cutHere⟩ := cut_of_mem member
  cases cutHere
  obtain ⟨digit, taken⟩ := Grammar.number_of_kind kind
  have numeric : ∀ char ∈ first :: rest.takeWhile Grammar.isNumberChar,
      Grammar.isNumberChar char = true := by
    intro char member
    rcases List.mem_cons.mp member with rfl | later
    · simp only [Grammar.isNumberChar, digit, Bool.true_or]
    · exact List.mem_takeWhile_imp later
  have text := text_of_cut whole
  rw [taken] at text
  rw [text]
  unfold decodeNumber
  rcases Numeral.ofText_number String.toList_ofList digit numeric with
    ⟨few, numeral, read⟩ | ⟨many, refused⟩
  · rw [read]
    exact .inl ⟨few, _, rfl⟩
  · rw [refused]
    exact .inr ⟨many, rfl⟩

/-- A number of a source is decoded exactly if its text has one point at most. With more points it
is refused as a malformed number, with its text and the cause that no numeral has this form. -/
theorem tokenize_decodes_numbers (source : String) :
    match tokenize source with
    | .ok buffer => ∀ index token, buffer.get? index = some token → token.kind = .number →
        ∃ text, (TokenView.mk source buffer).rawText index = .ok text ∧
          ((∃ value, (TokenView.mk source buffer).number index = .ok value) ↔
            text.toList.count '.' ≤ 1) ∧
          (¬ text.toList.count '.' ≤ 1 →
            ∃ cause, (TokenView.mk source buffer).number index =
                .error (.malformedNumber text cause) ∧
              cause.message = "invalid float literal")
    | .error _ => maxOffset < source.utf8ByteSize := by
  apply tokenize_elim
  intro result tokens index token held kind
  obtain ⟨problem, member⟩ := mem_of_get? tokens held
  refine ⟨token.text source, TokenView.rawText_eq held, ?_⟩
  rw [TokenView.number_eq held kind]
  rcases decodeNumber_of_mem member kind with ⟨few, decoded⟩ | ⟨many, refused⟩
  · exact ⟨iff_of_true decoded few, fun several => absurd few several⟩
  · refine ⟨iff_of_false ?_ (Nat.not_le.mpr many), fun _ => ⟨_, refused, rfl⟩⟩
    rintro ⟨value, decoded⟩
    cases refused.symm.trans decoded

example :
    let source := "1.x 2..3 007.5-8."
    (tokenize source).toOption.map (fun buffer => buffer.tokens.toList.map fun token =>
        (token.kind, (Numeral.ofText (token.text source)).toOption)) =
      some [(.number, some (.finite false 1 0)), (.identifier, none), (.number, none),
        (.number, some (.finite false 75 (-1))), (.operator, none),
        (.number, some (.finite false 8 0))] := by
  decide +kernel

end FormulaLexer
