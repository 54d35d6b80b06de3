import Mathlib.Data.List.Nodup
import FormulaLexer.Proofs.Classification
import FormulaLexer.Proofs.Encoding

/-!
# Derivations of the grammar

Reading a text token by token, as a derivation: a text of trivia has no token, and any
other text is trivia, a lexeme and a text that is read in turn. What holds of all tokens of
a text is shown by induction over its derivation; `Reads.at_entry` finds the cut behind one
of them.
-/

set_option autoImplicit false

namespace FormulaLexer

/-- The literal has no end of its own: it is cut off by the end of the text. -/
def Problem.isCutOff : Problem → Bool
  | .unterminatedString => true
  | .unterminatedDate => true
  | .malformedDate => false

namespace Grammar

variable {behind ahead skipped rest : List Char} {first : Char}

/-! ## Trivia in front of a token -/

/-- Trivia stops in front of a character that is neither a blank nor an apostrophe. -/
theorem first_of_splitTrivia (split : splitTrivia ahead = (skipped, first :: rest)) :
    isBlank first = false ∧ first ≠ '\x27' := by
  fun_induction splitTrivia ahead generalizing skipped with
  | case1 => cases split
  | case2 char tail _ inner after found ih =>
      cases split
      exact ih found
  | case3 tail inner after found _ ih =>
      cases split
      exact ih found
  | case4 char tail solid noComment =>
      cases split
      rw [isBlank_eq]
      exact ⟨by simpa using solid, noComment⟩

theorem append_of_splitTrivia (split : splitTrivia ahead = (skipped, rest)) :
    skipped ++ rest = ahead := by
  have whole := splitTrivia_append ahead
  rw [split] at whole
  exact whole

/-! ## Forms -/

/-- The first character alone decides which form of lexeme is cut. -/
theorem cut_forms (first : Char) :
    (first = '"' ∧ cut first = stringCut) ∨
      (first = '#' ∧ cut first = dateCut) ∨
      (first.isDigit = true ∧ cut first = runCut (fun _ => .sound .number) isNumberChar first) ∨
      (marks.contains first = true ∧ cut first = markCut first) ∨
      ((first ≠ '"' ∧ first ≠ '#' ∧ first.isDigit = false ∧ marks.contains first = false) ∧
        cut first = runCut (fun taken => .sound (wordKind taken)) isWordChar first) := by
  by_cases quote : first = '"'
  · refine .inl ⟨quote, ?_⟩
    funext rest
    rw [cut, if_pos quote]
  by_cases dateMark : first = '#'
  · refine .inr (.inl ⟨dateMark, ?_⟩)
    funext rest
    rw [cut, if_neg quote, if_pos dateMark]
  by_cases digit : first.isDigit = true
  · refine .inr (.inr (.inl ⟨digit, ?_⟩))
    funext rest
    rw [cut, if_neg quote, if_neg dateMark, if_pos digit]
  by_cases mark : marks.contains first = true
  · refine .inr (.inr (.inr (.inl ⟨mark, ?_⟩)))
    funext rest
    rw [cut, if_neg quote, if_neg dateMark, if_neg digit, if_pos mark]
  · have plain : first.isDigit = false ∧ marks.contains first = false :=
      ⟨by simpa using digit, by simpa using mark⟩
    refine .inr (.inr (.inr (.inr ⟨⟨quote, dateMark, plain⟩, ?_⟩)))
    funext rest
    rw [cut, if_neg quote, if_neg dateMark, if_neg digit, if_neg mark]

/-! ## Kinds -/

/-- The kinds that only literals between marks have, and the kind that no lexeme has. -/
def reservedKinds : List TokenKind := [.string, .date, .error, .endOfInput]

private theorem markKind_not_reserved (text : List Char) : markKind text ∉ reservedKinds := by
  unfold markKind
  split
  · decide
  · split <;> decide

/-- A word is an operator, an identifier or a keyword. -/
theorem wordKind_mem (text : List Char) :
    wordKind text ∈ .operator :: .identifier :: keywords.map (·.2) := by
  unfold wordKind
  split
  · decide
  · split
    · next word kind found =>
        have keyword : kind ∈ keywords.map (·.2) :=
          List.mem_map_of_mem (List.mem_of_find?_eq_some found)
        exact List.mem_cons_of_mem _ (List.mem_cons_of_mem _ keyword)
    · decide

private theorem wordKind_not_reserved (text : List Char) : wordKind text ∉ reservedKinds := by
  have apart : ∀ kind ∈ .operator :: .identifier :: keywords.map (·.2), kind ∉ reservedKinds := by
    decide
  exact apart _ (wordKind_mem text)

/-- A lexeme that begins with neither a quote nor a date mark has no problem, and is no
string, date or error. -/
theorem lexeme_of_plain (noQuote : first ≠ '"') (noMark : first ≠ '#') :
    ∃ kind, (cut first rest).lexeme = .sound kind ∧ kind ∉ reservedKinds := by
  rw [cut, if_neg noQuote, if_neg noMark]
  split
  · exact ⟨.number, rfl, by decide⟩
  split
  · unfold markCut
    split
    · split
      · exact ⟨_, rfl, markKind_not_reserved _⟩
      · exact ⟨_, rfl, markKind_not_reserved _⟩
    · exact ⟨_, rfl, markKind_not_reserved _⟩
  · exact ⟨_, rfl, wordKind_not_reserved _⟩

/-- No lexeme is the end of the input. -/
theorem kind_ne_endOfInput (first : Char) (rest : List Char) :
    (cut first rest).lexeme.kind ≠ .endOfInput := by
  by_cases quote : first = '"'
  · rw [cut, if_pos quote, stringCut]
    split
    · exact TokenKind.noConfusion
    · exact TokenKind.noConfusion
  by_cases mark : first = '#'
  · rw [cut, if_neg quote, if_pos mark, dateCut]
    split
    · exact TokenKind.noConfusion
    · cases isDate _ with
      | true => exact TokenKind.noConfusion
      | false => exact TokenKind.noConfusion
  · obtain ⟨kind, plain, outside⟩ := lexeme_of_plain quote mark
    rw [plain]
    rintro rfl
    exact outside (by decide)

/-- A literal that is cut off leaves nothing. -/
theorem rest_eq_nil_of_cutOff
    (cutOff : (cut first rest).lexeme.problem.any Problem.isCutOff = true) :
    (cut first rest).rest = [] := by
  by_cases quote : first = '"'
  · rw [cut, if_pos quote, stringCut] at cutOff ⊢
    split at cutOff
    · cases cutOff
    · rfl
  by_cases mark : first = '#'
  · rw [cut, if_neg quote, if_pos mark, dateCut] at cutOff ⊢
    split at cutOff
    · rfl
    · cases valid : isDate (rest.takeWhile (· != '#')) with
      | true =>
          rw [valid] at cutOff
          cases cutOff
      | false =>
          rw [valid] at cutOff
          cases cutOff
  · obtain ⟨kind, plain, _⟩ : ∃ kind, (cut first rest).lexeme = .sound kind ∧ _ :=
      lexeme_of_plain quote mark
    rw [plain] at cutOff
    cases cutOff

/-! ## Derivations -/

/-- `Reads behind ahead found`: behind `behind`, the text `ahead` has the tokens `found`. -/
inductive Reads : List Char → List Char → List (Token × Option Problem) → Prop where
  | done {behind ahead skipped : List Char} :
      splitTrivia ahead = (skipped, []) → Reads behind ahead []
  | step {behind ahead skipped rest : List Char} {first : Char}
      {found : List (Token × Option Problem)} :
      splitTrivia ahead = (skipped, first :: rest) →
      Reads (behind ++ skipped ++ (cut first rest).taken) (cut first rest).rest found →
      Reads behind ahead
        (((cut first rest).token (byteLength (behind ++ skipped)), (cut first rest).lexeme.problem)
          :: found)

/-- A text goes on behind its trivia with its first token, and behind that with the rest. -/
theorem append_of_step (behind : List Char)
    (split : splitTrivia ahead = (skipped, first :: rest)) :
    behind ++ skipped ++ first :: rest = behind ++ ahead ∧
      behind ++ skipped ++ (cut first rest).taken ++ (cut first rest).rest = behind ++ ahead := by
  rw [← append_of_splitTrivia split, ← (taken_append_rest first rest).1]
  simp only [List.append_assoc, and_self]

private theorem length_rest_lt_of_step (split : splitTrivia ahead = (skipped, first :: rest)) :
    (cut first rest).rest.length < ahead.length := by
  have lengths := congrArg List.length (append_of_splitTrivia split)
  have shorter := length_rest_lt first rest
  rw [List.length_append] at lengths
  omega

/-- Every text has a derivation, and it lists the tokens of the text. -/
theorem reads_tokensFrom (behind ahead : List Char) :
    Reads behind ahead (tokensFrom (byteLength behind) ahead) := by
  induction length : ahead.length using Nat.strongRecOn generalizing behind ahead with
  | ind count ih =>
    rw [tokensFrom]
    split
    · next split => exact .done split
    · next skipped first rest split =>
        have offset : byteLength behind + byteLength skipped = byteLength (behind ++ skipped) :=
          (byteLength_append _ _).symm
        have onward : ((cut first rest).token (byteLength (behind ++ skipped))).stop =
            byteLength (behind ++ skipped ++ (cut first rest).taken) :=
          (byteLength_append _ _).symm
        simp only [offset, onward]
        exact .step split (ih _ (length ▸ length_rest_lt_of_step split) _ _ rfl)

section

variable {found earlier later : List (Token × Option Problem)} {entry : Token × Option Problem}

/-- A text has one derivation only. -/
theorem tokensFrom_of_reads (derivation : Reads behind ahead found) :
    tokensFrom (byteLength behind) ahead = found := by
  induction derivation with
  | done split =>
      rw [tokensFrom]
      split
      · rfl
      · next again => cases split.symm.trans again
  | @step behind ahead skipped rest first found split _ ih =>
      rw [tokensFrom]
      split
      · next again => cases split.symm.trans again
      · next again =>
          cases split.symm.trans again
          rw [byteLength_append, byteLength_append] at ih
          rw [byteLength_append]
          exact congrArg _ ih

theorem eq_nil_of_reads_nil (derivation : Reads behind [] found) : found = [] := by
  rw [← tokensFrom_of_reads derivation, tokensFrom, splitTrivia]

/-- An entry was cut from the text at its place, and the derivation goes on behind it. -/
theorem Reads.at_entry (derivation : Reads behind ahead (earlier ++ entry :: later)) :
    ∃ before first rest, before ++ first :: rest = behind ++ ahead ∧
      (isBlank first = false ∧ first ≠ '\x27') ∧
      entry = ((cut first rest).token (byteLength before), (cut first rest).lexeme.problem) ∧
      Reads (before ++ (cut first rest).taken) (cut first rest).rest later := by
  induction earlier generalizing behind ahead with
  | nil =>
      cases derivation with
      | step split onward =>
          have solid := first_of_splitTrivia split
          exact ⟨_, _, _, (append_of_step behind split).1, solid, rfl, onward⟩
  | cons previous earlier ih =>
      cases derivation with
      | step split onward =>
          obtain ⟨before, first, rest, whole, found⟩ := ih onward
          exact ⟨before, first, rest, whole.trans (append_of_step behind split).2, found⟩

/-! ## Places of the tokens -/

private theorem start_of_reads (derivation : Reads behind ahead found) :
    ∀ entry ∈ found, byteLength behind ≤ entry.1.start := by
  induction derivation with
  | done =>
      intro entry member
      cases member
  | @step behind ahead skipped rest first found split _ ih =>
      intro entry member
      rcases List.mem_cons.mp member with rfl | later
      · rw [byteLength_append]
        exact Nat.le_add_right _ _
      · have further := ih entry later
        simp only [byteLength_append] at further
        omega

theorem start_lt_stop_of_reads (derivation : Reads behind ahead found) (member : entry ∈ found) :
    entry.1.start < entry.1.stop := by
  obtain ⟨earlier, later, rfl⟩ := List.append_of_mem member
  obtain ⟨before, first, rest, _, _, rfl, _⟩ := derivation.at_entry
  exact Nat.lt_add_of_pos_right (byteLength_pos (taken_append_rest first rest).2)

/-- Every token ends before the next one begins. -/
theorem ordered_of_reads (derivation : Reads behind ahead found) :
    found.Pairwise fun entry following => entry.1.stop ≤ following.1.start := by
  induction derivation with
  | done => exact List.Pairwise.nil
  | @step behind ahead skipped rest first found split onward ih =>
      refine List.Pairwise.cons ?_ ih
      intro following member
      have further := start_of_reads onward following member
      rw [byteLength_append] at further
      exact further

/-- No two tokens begin at the same place. -/
theorem nodup_starts_of_reads (derivation : Reads behind ahead found) :
    (found.map (·.1.start)).Nodup := by
  have ordered := ordered_of_reads derivation
  refine List.pairwise_map.mpr (ordered.imp_of_mem ?_)
  intro entry following member _ before same
  have wide := start_lt_stop_of_reads derivation member
  omega

/-! ## Diagnostics of the tokens -/

theorem diagnosticsOf_append (found later : List (Token × Option Problem)) :
    diagnosticsOf (found ++ later) = diagnosticsOf found ++ diagnosticsOf later :=
  List.filterMap_append

theorem mem_diagnosticsOf {diagnostic : Diagnostic} :
    diagnostic ∈ diagnosticsOf found ↔
      ∃ token, (token, some diagnostic.problem) ∈ found ∧ token.span = diagnostic.span := by
  rw [diagnosticsOf, List.mem_filterMap]
  constructor
  · rintro ⟨⟨token, problem⟩, member, same⟩
    obtain ⟨_, rfl, rfl⟩ := Option.map_eq_some_iff.mp same
    exact ⟨token, member, rfl⟩
  · rintro ⟨token, member, same⟩
    refine ⟨_, member, ?_⟩
    simp only [Option.map_some, same]

/-- A token's place carries the diagnostics of that token and of no other. -/
theorem mem_diagnosticsOf_iff (derivation : Reads behind ahead found) {token : Token}
    {problem : Option Problem} (member : (token, problem) ∈ found) (reported : Problem) :
    ⟨token.span, reported⟩ ∈ diagnosticsOf found ↔ problem = some reported := by
  rw [mem_diagnosticsOf]
  constructor
  · rintro ⟨other, among, place⟩
    have start : other.start = token.start := congrArg Span.start place
    have entry := List.inj_on_of_nodup_map (nodup_starts_of_reads derivation) among member start
    exact (congrArg Prod.snd entry).symm
  · rintro rfl
    exact ⟨token, member, rfl⟩

/-- The diagnostics at certain places are those of the tokens at these places. -/
theorem filter_diagnosticsOf (keep : Span → Bool) (found : List (Token × Option Problem)) :
    (diagnosticsOf found).filter (fun diagnostic => keep diagnostic.span) =
      diagnosticsOf (found.filter fun entry => keep entry.1.span) := by
  induction found with
  | nil => rfl
  | cons entry found ih =>
      obtain ⟨token, problem⟩ := entry
      cases kept : keep token.span <;> cases problem <;>
        simpa [diagnosticsOf, kept] using ih

end

end Grammar

end FormulaLexer
