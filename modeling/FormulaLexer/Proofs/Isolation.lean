import FormulaLexer.Proofs.Agreement
import FormulaLexer.Proofs.Extension
import FormulaLexer.Proofs.Relocation

/-!
# Texts of single tokens

A lexeme is found again in the characters it was cut from, with nothing behind them: every form
of lexeme stops at the end of the text where it stopped in front of other characters, and is
classified by its own characters alone. The text of a token, scanned by itself, is therefore that
token again, and shows the problem that the token has in its source.
-/

set_option autoImplicit false

namespace FormulaLexer

open Grammar (byteLength)

namespace Grammar

variable {first : Char} {rest inner text : List Char} {lexeme : Lexeme}

/-! ## Cuts -/

/-- The same lexeme, cut from its own characters. -/
def Cut.alone (piece : Cut) : Cut := ⟨piece.lexeme, piece.taken, []⟩

private theorem runCut_alone {lexeme : List Char → Lexeme} {inClass : Char → Bool}
    (taken : (runCut lexeme inClass first rest).taken = first :: inner) :
    runCut lexeme inClass first inner = (runCut lexeme inClass first rest).alone := by
  cases taken
  have every : ∀ char ∈ rest.takeWhile inClass, inClass char = true := by
    intro char member
    exact List.mem_takeWhile_imp member
  have again := List.takeWhile_eq_self_iff.mpr every
  have nothing := List.dropWhile_eq_nil_iff.mpr every
  simp only [runCut, Cut.alone, again, nothing]

private theorem stringCut_alone (taken : (stringCut rest).taken = '"' :: inner) :
    stringCut inner = (stringCut rest).alone := by
  cases found : Text.Quoted.body? rest with
  | none =>
      simp only [stringCut, found, List.cons.injEq, true_and] at taken
      subst taken
      simp only [stringCut, found, Cut.alone]
  | some read =>
      obtain ⟨body, after⟩ := read
      have closed := Text.Quoted.body?_closed found
      simp only [stringCut, found, List.cons_append, List.cons.injEq, true_and] at taken
      subst taken
      simp only [stringCut, found, closed, Cut.alone]

private theorem dateCut_alone (taken : (dateCut rest).taken = '#' :: inner) :
    dateCut inner = (dateCut rest).alone := by
  rcases search_cases '#' rest with
    ⟨_, _, left⟩ | ⟨inside, after, absent, rfl, inside_eq, left⟩
  · simp only [dateCut, left, List.cons.injEq, true_and] at taken
    subst taken
    simp only [dateCut, left, Cut.alone]
  · obtain ⟨inside_again, closing⟩ := search_append absent []
    simp only [dateCut, inside_eq, left, List.cons_append, List.cons.injEq, true_and] at taken
    subst taken
    simp only [dateCut, inside_eq, left, inside_again, closing, Cut.alone]

private theorem markCut_alone (taken : (markCut first rest).taken = first :: inner) :
    markCut first inner = (markCut first rest).alone := by
  cases rest with
  | nil =>
      cases taken
      rfl
  | cons second after =>
      by_cases paired : markPairs.contains (first, second) = true
      · simp only [markCut, paired, ↓reduceIte, List.cons.injEq, true_and] at taken
        subst taken
        simp only [markCut, paired, ↓reduceIte, Cut.alone]
      · simp only [markCut, paired, Bool.false_eq_true, ↓reduceIte, List.cons.injEq,
          true_and] at taken
        subst taken
        simp only [markCut, paired, Bool.false_eq_true, ↓reduceIte, Cut.alone]

/-- Behind its first character a lexeme takes from its own characters what it took before. -/
theorem cut_alone (taken : (cut first rest).taken = first :: inner) :
    cut first inner = (cut first rest).alone := by
  obtain ⟨rfl, form⟩ | ⟨rfl, form⟩ | ⟨_, form⟩ | ⟨_, form⟩ | ⟨_, form⟩ := cut_forms first
  · rw [form] at taken ⊢
    exact stringCut_alone taken
  · rw [form] at taken ⊢
    exact dateCut_alone taken
  · rw [form] at taken ⊢
    exact runCut_alone taken
  · rw [form] at taken ⊢
    exact markCut_alone taken
  · rw [form] at taken ⊢
    exact runCut_alone taken

/-! ## Texts that are one lexeme -/

/-- `Whole text lexeme`: no trivia begins the text, and by itself it is the one lexeme. -/
inductive Whole : List Char → Lexeme → Prop where
  | intro {first : Char} {inner : List Char} {lexeme : Lexeme} :
      isBlank first = false → first ≠ '\x27' →
      cut first inner = ⟨lexeme, first :: inner, []⟩ → Whole (first :: inner) lexeme

private theorem whole_of_cut (solid : isBlank first = false) (noComment : first ≠ '\x27') :
    Whole (cut first rest).taken (cut first rest).lexeme := by
  obtain ⟨parts, nonempty⟩ := taken_append_rest first rest
  obtain ⟨begins, inner, taken⟩ := List.exists_cons_of_ne_nil nonempty
  rw [taken, List.cons_append] at parts
  obtain ⟨rfl, _⟩ := List.cons.inj parts
  have alone := cut_alone taken
  rw [taken]
  refine .intro solid noComment ?_
  rw [alone, Cut.alone, taken]

theorem reads_whole (whole : Whole text lexeme) (behind : List Char) :
    Reads behind text
      [(⟨byteLength behind, byteLength (behind ++ text), lexeme.kind⟩, lexeme.problem)] := by
  cases whole with
  | @intro first inner _ solid noComment alone =>
      have step : Reads behind (first :: inner) _ :=
        .step (splitTrivia_of_solid solid noComment) (.done (by rw [alone, splitTrivia]))
      rw [alone] at step
      simpa [Cut.token] using step

private theorem filter_place_of_mem {behind ahead : List Char}
    {found : List (Token × Option Problem)}
    (derivation : Reads behind ahead found) {entry : Token × Option Problem}
    (member : entry ∈ found) :
    found.filter (fun other => other.1.span = entry.1.span) = [entry] := by
  have starts := nodup_starts_of_reads derivation
  obtain ⟨earlier, later, rfl⟩ := List.append_of_mem member
  rw [List.map_append, List.map_cons, List.nodup_middle, List.nodup_cons,
    ← List.map_append] at starts
  have elsewhere : ∀ other ∈ earlier ++ later, ¬ other.1.span = entry.1.span := by
    intro other among same
    have start : other.1.start = entry.1.start := congrArg Span.start same
    apply starts.1
    rw [← start]
    exact List.mem_map_of_mem among
  obtain ⟨before, behindIt⟩ := List.forall_mem_append.mp elsewhere
  rw [List.filter_append, List.filter_cons_of_pos (by simp),
    List.filter_eq_nil_iff.mpr (by simpa using before),
    List.filter_eq_nil_iff.mpr (by simpa using behindIt)]
  rfl

end Grammar

/-! ## Sources -/

section

variable {source : String} {token : Token} {problem : Option Problem}

/-- The text of a token is the one lexeme that the token was read as, and as long as the token. -/
theorem whole_of_mem (member : (token, problem) ∈ Grammar.tokensFrom 0 source.toList) :
    Grammar.Whole (token.text source).toList ⟨token.kind, problem⟩ ∧
      token.stop = token.start + (token.text source).utf8ByteSize ∧
      token.stop ≤ source.utf8ByteSize := by
  obtain ⟨before, first, rest, whole, ⟨solid, noComment⟩, cutHere⟩ := cut_of_mem member
  cases cutHere
  have size : source.utf8ByteSize = byteLength before +
      (byteLength (Grammar.cut first rest).taken + byteLength (Grammar.cut first rest).rest) := by
    rw [← byteLength_toList, whole, ← (Grammar.taken_append_rest first rest).1,
      byteLength_append, byteLength_append]
  rw [text_of_cut whole, String.toList_ofList, utf8ByteSize_ofList, size]
  refine ⟨Grammar.whole_of_cut solid noComment, rfl, ?_⟩
  simp only [Grammar.Cut.token]
  omega

private theorem tokensFrom_text (member : (token, problem) ∈ Grammar.tokensFrom 0 source.toList) :
    Grammar.tokensFrom 0 (token.text source).toList =
      [(⟨0, token.stop - token.start, token.kind⟩, problem)] := by
  obtain ⟨whole, stop, _⟩ := whole_of_mem member
  have alone := Grammar.tokensFrom_of_reads (Grammar.reads_whole whole [])
  rw [stop, Nat.add_sub_cancel_left, ← byteLength_toList]
  exact alone

end

/-- The text of every token of a source, those that touch its end included, can be scanned by
itself. It has that one token, from its front to its end, and its diagnostics are those that the
source has at the place of the token. -/
theorem lex_text_of_token (source : String) :
    match lex source with
    | .ok result =>
        ∀ token ∈ result.tokens.tokens.toList,
          token.start < token.stop ∧
            ∃ alone, lex (token.text source) = .ok alone ∧
              alone.tokens.tokens.toList = [⟨0, token.stop - token.start, token.kind⟩] ∧
              result.diagnostics.filter (fun diagnostic => diagnostic.span = token.span) =
                alone.diagnostics.map (·.shift token.start)
    | .error _ => maxOffset < source.utf8ByteSize := by
  apply lex_elim
  intro result fits tokens diagnostics token member
  obtain ⟨problem, member⟩ := entry_of_mem tokens member
  have derivation := Grammar.reads_tokensFrom [] source.toList
  have wide := Grammar.start_lt_stop_of_reads derivation member
  obtain ⟨_, stop, inside⟩ := whole_of_mem member
  obtain ⟨alone, scanned, aloneTokens, aloneDiagnostics⟩ :=
    lex_follows (by omega : (token.text source).utf8ByteSize ≤ maxOffset)
  have entries := tokensFrom_text member
  refine ⟨wide, alone, scanned, ?_, ?_⟩
  · rw [aloneTokens, Grammar.tokens, entries]
    rfl
  · have here := Grammar.filter_place_of_mem derivation member
    have moved : [(token, problem)] =
        [((⟨0, token.stop - token.start, token.kind⟩ : Token), problem)].map
          (Grammar.shiftEntry token.start) := by
      have back : token.stop - token.start + token.start = token.stop := by omega
      simp [Grammar.shiftEntry, Token.shift, back]
    have places := Grammar.filter_diagnosticsOf (fun span => span = token.span)
      (Grammar.tokensFrom 0 source.toList)
    rw [diagnostics, aloneDiagnostics, Grammar.diagnostics, Grammar.diagnostics, entries,
      ← Grammar.diagnosticsOf_shiftEntry, ← moved, ← here]
    exact places

/-- A string that is cut off by the end of its source, behind a date that is none. -/
theorem lex_text_of_token_cutOff :
    let source := "#1#\u00b2\"\"\"y"
    let token : Token := ⟨5, 9, .string⟩
    ∃ result alone, lex source = .ok result ∧ token ∈ result.tokens.tokens.toList ∧
      lex "\"\"\"y" = .ok alone ∧ alone.tokens.tokens.toList = [⟨0, 4, .string⟩] ∧
      result.diagnostics.filter (fun diagnostic => diagnostic.span = token.span) =
        alone.diagnostics.map (·.shift 5) := by
  intro source token
  have fits : source.utf8ByteSize ≤ maxOffset := by decide +kernel
  have text : token.text source = "\"\"\"y" := by decide +kernel
  obtain ⟨result, scanned, tokens, _⟩ := lex_follows fits
  have member : token ∈ result.tokens.tokens.toList := by
    rw [tokens]
    decide +kernel
  have every := lex_text_of_token source
  rw [scanned] at every
  obtain ⟨_, alone, again, found⟩ := every token member
  rw [text] at again
  exact ⟨result, alone, scanned, member, again, found⟩

end FormulaLexer
