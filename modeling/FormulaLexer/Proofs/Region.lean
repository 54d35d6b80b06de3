import FormulaLexer.Proofs.Derivation
import FormulaLexer.Source.Region

/-!
# Regions between characters

Offsets counted in the UTF-8 lengths of characters are positions of a text, and there are no other
positions. The region between two of them is the characters between them, and offsets that are no
positions have no region.
-/

set_option autoImplicit false

namespace FormulaLexer

open Grammar (byteLength)

variable {source : String} {before middle later : List Char}

theorem isValid_byteLength (whole : source.toList = before ++ later) :
    String.Pos.Raw.IsValid source ⟨byteLength before⟩ := by
  rw [String.Pos.Raw.isValid_iff_exists_append]
  refine ⟨String.ofList before, String.ofList later, ?_, ?_⟩
  · rw [← String.ofList_append, ← whole, String.ofList_toList]
  · rw [String.rawEndPos, utf8ByteSize_ofList]

private theorem pos?_eq_some {offset : String.Pos.Raw} (valid : offset.IsValid source) :
    source.pos? offset = some (source.pos offset valid) := by
  rw [String.pos?, String.Slice.pos?,
    dif_pos (String.Pos.Raw.isValidForSlice_eq_true_iff.mpr valid.toSlice)]
  rfl

/-- The region of a text between two places between characters. -/
theorem region?_between (whole : source.toList = before ++ middle ++ later) :
    region? source (byteLength before) (byteLength (before ++ middle)) =
      some (String.ofList middle) := by
  have first := isValid_byteLength (whole.trans (List.append_assoc before middle later))
  have last := isValid_byteLength whole
  rw [region?, pos?_eq_some first, pos?_eq_some last]
  have ordered : source.pos ⟨byteLength before⟩ first ≤
      source.pos ⟨byteLength (before ++ middle)⟩ last := by
    simp [String.Pos.le_iff, String.Pos.Raw.le_iff]
  have bytes := extract_encoded before middle later ByteArray.empty
  rw [← whole, String.ofList_toList, ByteArray.append_empty] at bytes
  simp only [if_pos ordered, Option.some.injEq]
  rw [← String.toByteArray_inj, String.toByteArray_extract]
  exact bytes

/-! ## Offsets that are positions -/

theorem isValid_iff_byteLength {offset : Nat} :
    String.Pos.Raw.IsValid source ⟨offset⟩ ↔
      ∃ before later, source.toList = before ++ later ∧ offset = byteLength before := by
  constructor
  · intro valid
    obtain ⟨front, back, rfl, place⟩ := String.Pos.Raw.isValid_iff_exists_append.mp valid
    refine ⟨front.toList, back.toList, String.toList_append, ?_⟩
    rw [byteLength_toList]
    exact congrArg String.Pos.Raw.byteIdx place
  · rintro ⟨before, later, whole, rfl⟩
    exact isValid_byteLength whole

theorem pos?_eq_none {offset : String.Pos.Raw} (invalid : ¬ offset.IsValid source) :
    source.pos? offset = none := by
  rw [String.pos?, String.Slice.pos?, dif_neg]
  · rfl
  · intro valid
    exact invalid (by simpa using String.Pos.Raw.isValidForSlice_eq_true_iff.mp valid)

section

variable {start stop : Nat}

/-- Two positions in their order cut a text into three parts. -/
theorem parts_of_isValid (ordered : start ≤ stop)
    (first : String.Pos.Raw.IsValid source ⟨start⟩) (last : String.Pos.Raw.IsValid source ⟨stop⟩) :
    ∃ before middle later, source.toList = before ++ middle ++ later ∧
      start = byteLength before ∧ stop = byteLength (before ++ middle) := by
  obtain ⟨before, behind, whole, rfl⟩ := isValid_iff_byteLength.mp first
  obtain ⟨front, later, again, rfl⟩ := isValid_iff_byteLength.mp last
  rcases List.append_eq_append_iff.mp (whole.symm.trans again) with
    ⟨middle, rfl, rfl⟩ | ⟨middle, rfl, rfl⟩
  · exact ⟨before, middle, later, again, rfl, rfl⟩
  · have empty : middle = [] := by
      by_contra nonempty
      have positive := byteLength_pos nonempty
      rw [byteLength_append] at ordered
      omega
    subst empty
    rw [List.append_nil]
    exact ⟨front, [], behind, by simpa using again, rfl, by simp⟩

end

/-! ## Tokens -/

/-- The text of a token that was cut from a source is the characters that were taken. -/
theorem text_of_cut {first : Char} {rest : List Char}
    (whole : source.toList = before ++ first :: rest) :
    ((Grammar.cut first rest).token (byteLength before)).text source =
      String.ofList (Grammar.cut first rest).taken := by
  rw [← (Grammar.taken_append_rest first rest).1, ← List.append_assoc] at whole
  rw [Token.text, Grammar.Cut.token, ← byteLength_append, region?_between whole]
  rfl

theorem text_of_front (front rest : String) (kind : TokenKind) :
    (⟨0, front.utf8ByteSize, kind⟩ : Token).text (front ++ rest) = front := by
  have whole : (front ++ rest).toList = [] ++ front.toList ++ rest.toList := String.toList_append
  have region := region?_between whole
  rw [byteLength_nil, List.nil_append, byteLength_toList, String.ofList_toList] at region
  rw [Token.text, region]
  rfl

/-- Every entry of a source was cut from it at its place. -/
theorem cut_of_mem {entry : Token × Option Problem}
    (member : entry ∈ Grammar.tokensFrom 0 source.toList) :
    ∃ before first rest, source.toList = before ++ first :: rest ∧
      (isBlank first = false ∧ first ≠ '\x27') ∧
      entry = ((Grammar.cut first rest).token (byteLength before),
        (Grammar.cut first rest).lexeme.problem) := by
  have derivation := Grammar.reads_tokensFrom [] source.toList
  obtain ⟨earlier, later, parts⟩ := List.append_of_mem member
  rw [byteLength_nil, parts] at derivation
  obtain ⟨before, first, rest, whole, solid, cutHere, _⟩ := derivation.at_entry
  exact ⟨before, first, rest, whole.symm, solid, cutHere⟩

end FormulaLexer
