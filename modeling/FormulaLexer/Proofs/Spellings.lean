import Mathlib.Data.List.Count
import Mathlib.Data.List.Nodup
import FormulaLexer.Proofs.OffsetReaders

/-!
# Spellings

A word is looked up twice: in the table of the operators, behind tests on its length and on its
characters, and among the reserved words of its length. A plain search through every spelling, up to
letter case, comes to the same answer for any text. No two spellings are alike, so the two look-ups
could as well be made in the other order.
-/

set_option autoImplicit false

namespace FormulaLexer

open Text (equalIgnoringAsciiCase equalIgnoringAsciiCase_iff)

/-- Everything a word is compared with: the operators, then the reserved words. -/
def knownSpellings : List String :=
  Operator.all.map Operator.spelling ++ Grammar.keywords.map (·.1)

variable {text : String} {kind : TokenKind}

/-! ## One spelling at most -/

private theorem nodup_knownSpellings : (knownSpellings.map Text.asciiFold).Nodup := by decide

private theorem countP_knownSpellings_le_one (text : String) :
    knownSpellings.countP (equalIgnoringAsciiCase text) ≤ 1 := by
  have counted : knownSpellings.countP (equalIgnoringAsciiCase text) =
      (knownSpellings.map Text.asciiFold).count (Text.asciiFold text) := by
    rw [List.count_eq_countP, List.countP_map]
    refine List.countP_congr ?_
    intro spelling _
    exact equalIgnoringAsciiCase_iff.trans (eq_comm.trans beq_iff_eq.symm)
  rw [counted]
  exact List.nodup_iff_count_le_one.mp nodup_knownSpellings _

/-- No reserved word is spelled like an operator. -/
theorem operator_not_keyword {operator : Operator} {entry : String × TokenKind}
    (listed : operator ∈ Operator.all) (reserved : entry ∈ Grammar.keywords)
    (spelled : equalIgnoringAsciiCase text operator.spelling = true) :
    equalIgnoringAsciiCase text entry.1 = false := by
  have apart := (List.nodup_append.mp (List.map_append ▸ nodup_knownSpellings)).2.2
  by_contra alike
  rw [Bool.not_eq_false, equalIgnoringAsciiCase_iff] at alike
  rw [equalIgnoringAsciiCase_iff] at spelled
  exact apart _ (List.mem_map_of_mem (List.mem_map_of_mem listed)) _
    (List.mem_map_of_mem (List.mem_map_of_mem reserved)) (spelled.symm.trans alike)

/-! ## Sorts of words -/

/-- `Sorted text kind`: what the kind of a word says about the spellings that the word has and those
that it has not. -/
inductive Sorted (text : String) : TokenKind → Prop where
  | operator {operator : Operator} :
      operator ∈ Operator.all → equalIgnoringAsciiCase text operator.spelling = true →
      keywordKind? text = none → Sorted text .operator
  | keyword {entry : String × TokenKind} :
      entry ∈ Grammar.keywords → equalIgnoringAsciiCase text entry.1 = true →
      keywordKind? text = some entry.2 → Operator.ofSpelling text = .invalid → Sorted text entry.2
  | identifier :
      Operator.ofSpelling text = .invalid → keywordKind? text = none → Sorted text .identifier

theorem ofSpelling_eq_invalid_iff :
    Operator.ofSpelling text = .invalid ↔
      ∀ operator ∈ Operator.all, equalIgnoringAsciiCase text operator.spelling = false := by
  constructor
  · intro unspelled operator listed
    have real := Operator.mem_all_iff.mp listed
    by_contra spelled
    rw [Bool.not_eq_false, ← Operator.ofSpelling_eq_iff real, unspelled] at spelled
    exact real spelled.symm
  · intro unspelled
    by_contra real
    have spelled := (Operator.ofSpelling_eq_iff real).mp rfl
    rw [unspelled _ (Operator.mem_all_iff.mpr real)] at spelled
    cases spelled

theorem keywordKind?_eq_some_iff :
    keywordKind? text = some kind ↔
      ∃ entry ∈ Grammar.keywords,
        equalIgnoringAsciiCase text entry.1 = true ∧ entry.2 = kind := by
  rw [keywordKind?_eq, Option.map_eq_some_iff]
  simp only [find?_keyword_eq_some_iff fun _ listed => listed, equalIgnoringAsciiCase_iff,
    and_assoc]

theorem keywordKind?_eq_none_iff :
    keywordKind? text = none ↔
      ∀ entry ∈ Grammar.keywords, equalIgnoringAsciiCase text entry.1 = false := by
  rw [keywordKind?_eq, Option.map_eq_none_iff, List.find?_eq_none]
  simp only [Bool.not_eq_true]

theorem sorted_wordKind (text : String) : Sorted text (wordKind text) := by
  unfold wordKind
  split
  · next real =>
      rw [Operator.isSpelling, bne_iff_ne] at real
      have listed := Operator.mem_all_iff.mpr real
      have spelled := (Operator.ofSpelling_eq_iff real).mp rfl
      refine .operator listed spelled (keywordKind?_eq_none_iff.mpr ?_)
      intro entry reserved
      exact operator_not_keyword listed reserved spelled
  · next unreal =>
      have unspelled : Operator.ofSpelling text = .invalid := by
        simpa only [Operator.isSpelling, bne_iff_ne, not_not] using unreal
      cases found : keywordKind? text with
      | none => exact .identifier unspelled found
      | some kind =>
          obtain ⟨entry, reserved, spelled, rfl⟩ := keywordKind?_eq_some_iff.mp found
          exact .keyword reserved spelled found unspelled

private theorem Sorted.operator_iff (sorted : Sorted text kind) :
    kind = .operator ↔
      ∃ operator ∈ Operator.all, equalIgnoringAsciiCase text operator.spelling = true := by
  have absent : Operator.ofSpelling text = .invalid →
      ¬ ∃ operator ∈ Operator.all, equalIgnoringAsciiCase text operator.spelling = true := by
    intro unspelled present
    obtain ⟨operator, listed, spelled⟩ := present
    rw [ofSpelling_eq_invalid_iff.mp unspelled operator listed] at spelled
    cases spelled
  have reservedKinds : ∀ entry ∈ Grammar.keywords, entry.2 ≠ .operator := by decide
  cases sorted with
  | operator listed spelled _ => exact iff_of_true rfl ⟨_, listed, spelled⟩
  | keyword reserved _ _ unspelled =>
      exact iff_of_false (reservedKinds _ reserved) (absent unspelled)
  | identifier unspelled _ => exact iff_of_false TokenKind.noConfusion (absent unspelled)

private theorem Sorted.keyword_iff (sorted : Sorted text kind) {entry : String × TokenKind}
    (reserved : entry ∈ Grammar.keywords) :
    kind = entry.2 ↔ equalIgnoringAsciiCase text entry.1 = true := by
  have wordKinds : ∀ entry ∈ Grammar.keywords, .operator ≠ entry.2 ∧ .identifier ≠ entry.2 := by
    decide
  have distinct : ∀ entry ∈ Grammar.keywords, ∀ other ∈ Grammar.keywords,
      entry.2 = other.2 → entry = other := by decide
  have absent : keywordKind? text = none → ¬ equalIgnoringAsciiCase text entry.1 = true := by
    intro unreserved
    simp only [keywordKind?_eq_none_iff.mp unreserved entry reserved, Bool.false_eq_true,
      not_false_eq_true]
  cases sorted with
  | operator _ _ unreserved => exact iff_of_false (wordKinds _ reserved).1 (absent unreserved)
  | @keyword other otherReserved otherSpelled _ _ =>
      constructor
      · intro same
        rw [← distinct _ otherReserved _ reserved same]
        exact otherSpelled
      · intro spelled
        rw [equalIgnoringAsciiCase_iff] at spelled otherSpelled
        rw [keyword_inj otherReserved reserved (otherSpelled.symm.trans spelled)]
  | identifier _ unreserved => exact iff_of_false (wordKinds _ reserved).2 (absent unreserved)

private theorem Sorted.identifier_iff (sorted : Sorted text kind) :
    kind = .identifier ↔
      ∀ spelling ∈ knownSpellings, equalIgnoringAsciiCase text spelling = false := by
  have reservedKinds : ∀ entry ∈ Grammar.keywords, entry.2 ≠ .identifier := by decide
  simp only [knownSpellings, List.forall_mem_append, List.forall_mem_map]
  cases sorted with
  | operator listed spelled _ =>
      refine iff_of_false TokenKind.noConfusion ?_
      intro unspelled
      cases spelled.symm.trans (unspelled.1 _ listed)
  | keyword reserved spelled _ _ =>
      refine iff_of_false (reservedKinds _ reserved) ?_
      intro unspelled
      cases spelled.symm.trans (unspelled.2 _ reserved)
  | identifier unspelled unreserved =>
      exact iff_of_true rfl
        ⟨ofSpelling_eq_invalid_iff.mp unspelled, keywordKind?_eq_none_iff.mp unreserved⟩

/-! ## The look-up and the search -/

/-- The look-up of a text agrees with a search through all spellings. -/
structure FoundBySearch (text : String) : Prop where
  operator : ∀ operator ∈ Operator.all, Operator.ofSpelling text = operator ↔
    equalIgnoringAsciiCase text operator.spelling = true
  invalid : Operator.ofSpelling text = .invalid ↔
    ∀ operator ∈ Operator.all, equalIgnoringAsciiCase text operator.spelling = false
  operatorByOffsets : ∀ operator ∈ Operator.all, Offsets.operator text = .ok operator ↔
    equalIgnoringAsciiCase text operator.spelling = true
  invalidByOffsets : Offsets.operator text = .ok .invalid ↔
    ∀ operator ∈ Operator.all, equalIgnoringAsciiCase text operator.spelling = false
  operatorKind : wordKind text = .operator ↔
    ∃ operator ∈ Operator.all, equalIgnoringAsciiCase text operator.spelling = true
  keywordKind : ∀ entry ∈ Grammar.keywords, wordKind text = entry.2 ↔
    equalIgnoringAsciiCase text entry.1 = true
  identifierKind : wordKind text = .identifier ↔
    ∀ spelling ∈ knownSpellings, equalIgnoringAsciiCase text spelling = false
  oneSpelling : knownSpellings.countP (equalIgnoringAsciiCase text) ≤ 1
  eitherOrder : wordKind text =
    (keywordKind? text).getD (if Operator.isSpelling text then .operator else .identifier)
  kindByOffsets : Offsets.wordKind text = .ok (wordKind text)

private theorem wordKind_eq_keyword_first (text : String) :
    wordKind text =
      (keywordKind? text).getD (if Operator.isSpelling text then .operator else .identifier) := by
  have kinds := sorted_wordKind text
  generalize wordKind text = kind at kinds
  cases kinds with
  | operator listed spelled unreserved =>
      have real := Operator.mem_all_iff.mp listed
      have found := (Operator.ofSpelling_eq_iff real).mpr spelled
      simp only [unreserved, Operator.isSpelling, found, bne_iff_ne.mpr real, Option.getD_none,
        ↓reduceIte]
  | keyword _ _ found _ => simp only [found, Option.getD_some]
  | identifier unspelled unreserved =>
      simp only [unreserved, Operator.isSpelling, unspelled, bne_self_eq_false, Bool.false_eq_true,
        Option.getD_none, ↓reduceIte]

theorem byOffsets_iff {operator : Operator} :
    Offsets.operator text = .ok operator ↔ Operator.ofSpelling text = operator := by
  rw [Offsets.operator_eq, Except.ok.injEq]

/-- Whatever the text, its look-up finds what a search through all spellings finds. -/
theorem lookup_eq_search (text : String) : FoundBySearch text where
  operator := fun _ listed => Operator.ofSpelling_eq_iff (Operator.mem_all_iff.mp listed)
  invalid := ofSpelling_eq_invalid_iff
  operatorByOffsets := fun _ listed =>
    byOffsets_iff.trans (Operator.ofSpelling_eq_iff (Operator.mem_all_iff.mp listed))
  invalidByOffsets := byOffsets_iff.trans ofSpelling_eq_invalid_iff
  operatorKind := (sorted_wordKind text).operator_iff
  keywordKind := fun _ reserved => (sorted_wordKind text).keyword_iff reserved
  identifierKind := (sorted_wordKind text).identifier_iff
  oneSpelling := countP_knownSpellings_le_one text
  eitherOrder := wordKind_eq_keyword_first text
  kindByOffsets := Offsets.wordKind_eq text

example :
    ["AndAlso", "andalso\x00", "CLASS", "cla\u017fs", "\u0131n", ""].map wordKind =
      [.operator, .identifier, .keywordClass, .identifier, .identifier, .identifier] := by
  decide +kernel

end FormulaLexer
