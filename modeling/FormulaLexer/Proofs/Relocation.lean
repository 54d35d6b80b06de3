import FormulaLexer.Proofs.Region
import FormulaLexer.Proofs.Scanning

/-!
# Texts at another place

A text is read alike wherever it stands: text in front of it moves its tokens and its
diagnostics and changes nothing else. A scan can therefore be taken up behind any token, from
the text that is left there alone.
-/

set_option autoImplicit false

namespace FormulaLexer

open Grammar (byteLength)

namespace Grammar

variable {behind ahead : List Char} {found : List (Token × Option Problem)}

/-- The entry of a token that has moved to the right by `distance` bytes. -/
def shiftEntry (distance : Nat) (entry : Token × Option Problem) : Token × Option Problem :=
  (entry.1.shift distance, entry.2)

private theorem Cut.token_add (piece : Cut) (start distance : Nat) :
    piece.token (distance + start) = (piece.token start).shift distance := by
  simp only [Cut.token, Token.shift, Token.mk.injEq, and_true]
  omega

/-- Text in front of a derivation moves its entries by the length of that text. -/
theorem Reads.shift (derivation : Reads behind ahead found) (front : List Char) :
    Reads (front ++ behind) ahead (found.map (shiftEntry (byteLength front))) := by
  induction derivation with
  | done split => exact .done split
  | @step behind ahead skipped rest first found split _ ih =>
      have place : (cut first rest).token (byteLength (front ++ behind ++ skipped)) =
          ((cut first rest).token (byteLength (behind ++ skipped))).shift (byteLength front) := by
        rw [List.append_assoc, byteLength_append front]
        exact Cut.token_add _ _ _
      have onward : Reads (front ++ behind ++ skipped ++ (cut first rest).taken)
          (cut first rest).rest (found.map (shiftEntry (byteLength front))) := by
        simpa only [List.append_assoc] using ih
      have moved := Reads.step split onward
      rw [place] at moved
      exact moved

/-- The entries of a text behind other text, from the entries of the text alone. -/
theorem tokensFrom_byteLength (front ahead : List Char) :
    tokensFrom (byteLength front) ahead =
      (tokensFrom 0 ahead).map (shiftEntry (byteLength front)) := by
  have alone := reads_tokensFrom [] ahead
  have moved := alone.shift front
  rw [List.append_nil] at moved
  exact tokensFrom_of_reads moved

theorem map_fst_shiftEntry (distance : Nat) (found : List (Token × Option Problem)) :
    (found.map (shiftEntry distance)).map (·.1) = (found.map (·.1)).map (·.shift distance) := by
  simp only [List.map_map]
  rfl

theorem diagnosticsOf_shiftEntry (distance : Nat) (found : List (Token × Option Problem)) :
    diagnosticsOf (found.map (shiftEntry distance)) =
      (diagnosticsOf found).map (·.shift distance) := by
  induction found with
  | nil => rfl
  | cons entry found ih =>
      obtain ⟨token, problem⟩ := entry
      cases problem with
      | none => exact ih
      | some problem => exact congrArg _ ih

/-- Only the tokens behind a token, and their diagnostics, begin at its end or later. -/
theorem diagnosticsOf_behind {earlier later : List (Token × Option Problem)}
    {entry : Token × Option Problem} (derivation : Reads behind ahead (earlier ++ entry :: later)) :
    (diagnosticsOf (earlier ++ entry :: later)).filter
        (fun diagnostic => entry.1.stop ≤ diagnostic.span.start) = diagnosticsOf later := by
  have ordered := ordered_of_reads derivation
  obtain ⟨_, ordered, across⟩ := List.pairwise_append.mp ordered
  have dropped : ∀ previous ∈ earlier, ¬ entry.1.stop ≤ previous.1.start := by
    intro previous member
    have before := across previous member entry List.mem_cons_self
    have wide := start_lt_stop_of_reads derivation (List.mem_append_left _ member)
    have solid := start_lt_stop_of_reads derivation
      (List.mem_append_right earlier List.mem_cons_self)
    omega
  have itself : ¬ entry.1.stop ≤ entry.1.start :=
    Nat.not_le.mpr (start_lt_stop_of_reads derivation
      (List.mem_append_right earlier List.mem_cons_self))
  have kept : ∀ following ∈ later, entry.1.stop ≤ following.1.start :=
    (List.pairwise_cons.mp ordered).1
  have entries : (earlier ++ entry :: later).filter
      (fun other => decide (entry.1.stop ≤ other.1.start)) = later := by
    rw [List.filter_append, List.filter_cons_of_neg (by simpa using itself),
      List.filter_eq_nil_iff.mpr (by simpa using dropped),
      List.filter_eq_self.mpr (by simpa using kept), List.nil_append]
  have places := filter_diagnosticsOf (fun span => decide (entry.1.stop ≤ span.start))
    (earlier ++ entry :: later)
  exact places.trans (congrArg diagnosticsOf entries)

/-- Behind any of its entries, a text goes on with the entries of what is left. -/
theorem resume_behind {chars : List Char} {index : Nat} {entry : Token × Option Problem}
    (held : (tokensFrom 0 chars)[index]? = some entry) :
    ∃ before rest, chars = before ++ rest ∧ entry.1.stop = byteLength before ∧
      (tokensFrom 0 chars).drop (index + 1) =
        (tokensFrom 0 rest).map (shiftEntry entry.1.stop) ∧
      (diagnosticsOf (tokensFrom 0 chars)).filter
          (fun diagnostic => entry.1.stop ≤ diagnostic.span.start) =
        (diagnosticsOf (tokensFrom 0 rest)).map (·.shift entry.1.stop) := by
  obtain ⟨inside, here⟩ := List.getElem?_eq_some_iff.mp held
  have parts : tokensFrom 0 chars = (tokensFrom 0 chars).take index ++
      entry :: (tokensFrom 0 chars).drop (index + 1) := by
    rw [← here, List.getElem_cons_drop, List.take_append_drop]
  have derivation : Reads [] chars ((tokensFrom 0 chars).take index ++
      entry :: (tokensFrom 0 chars).drop (index + 1)) := parts ▸ reads_tokensFrom [] chars
  obtain ⟨before, first, rest, whole, _, cutHere, onward⟩ := derivation.at_entry
  have place : entry.1.stop = byteLength (before ++ (cut first rest).taken) := by
    rw [cutHere, byteLength_append]
    rfl
  have moved : (tokensFrom 0 chars).drop (index + 1) =
      (tokensFrom 0 (cut first rest).rest).map (shiftEntry entry.1.stop) := by
    rw [place, ← tokensFrom_byteLength, tokensFrom_of_reads onward]
  refine ⟨_, (cut first rest).rest, ?_, place, moved, ?_⟩
  · rw [List.append_assoc, (taken_append_rest first rest).1]
    exact whole.symm
  · have diagnostics := diagnosticsOf_behind derivation
    rw [← parts] at diagnostics
    rw [diagnostics, moved, diagnosticsOf_shiftEntry]

end Grammar

/-- The end of a token of a source that fits cuts off a text that can be scanned by itself.
Its tokens and diagnostics, moved back to their places, are those of the source behind the
token. -/
theorem lex_resumes_behind_token (source : String) :
    match lex source with
    | .ok result =>
        ∀ index token, result.tokens.get? index = some token →
          ∃ rest later, region? source token.stop source.utf8ByteSize = some rest ∧
            lex rest = .ok later ∧
            result.tokens.tokens.toList.drop (index + 1) =
              later.tokens.tokens.toList.map (·.shift token.stop) ∧
            result.diagnostics.filter (fun diagnostic => token.stop ≤ diagnostic.span.start) =
              later.diagnostics.map (·.shift token.stop)
    | .error _ => maxOffset < source.utf8ByteSize := by
  apply lex_elim
  intro result fits tokens diagnostics index token held
  rw [TokenBuffer.get?, ← Array.getElem?_toList, tokens, Grammar.tokens, List.getElem?_map,
    Option.map_eq_some_iff] at held
  obtain ⟨entry, held, rfl⟩ := held
  obtain ⟨before, rest, whole, place, entries, behind⟩ := Grammar.resume_behind held
  have size : source.utf8ByteSize = byteLength (before ++ rest) := by
    rw [← whole, byteLength_toList]
  have inner : (String.ofList rest).utf8ByteSize ≤ maxOffset := by
    rw [utf8ByteSize_ofList]
    rw [size, byteLength_append] at fits
    omega
  obtain ⟨later, scanned, laterTokens, laterDiagnostics⟩ := lex_follows inner
  rw [Grammar.tokens, String.toList_ofList] at laterTokens
  rw [Grammar.diagnostics, String.toList_ofList] at laterDiagnostics
  refine ⟨String.ofList rest, later, ?_, scanned, ?_, ?_⟩
  · rw [place, size]
    exact region?_between (whole.trans (List.append_nil _).symm)
  · rw [tokens, laterTokens, Grammar.tokens, ← List.map_drop, entries, Grammar.map_fst_shiftEntry]
  · rw [diagnostics, laterDiagnostics]
    exact behind

end FormulaLexer
