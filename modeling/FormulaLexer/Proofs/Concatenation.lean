import FormulaLexer.Proofs.Extension
import FormulaLexer.Proofs.Relocation

/-!
# Texts put together

Two texts with a line feed between them are read one after the other, provided that no literal
of the first is cut off by its end. Where nothing stands between them, only the token that
touches the end of the first text can come out different.
-/

set_option autoImplicit false

namespace FormulaLexer

open Grammar (byteLength)

namespace Grammar

variable {behind ahead more : List Char} {found later : List (Token × Option Problem)}

/-! ## A lexeme in front -/

private theorem tokensFrom_lexeme_front {first : Char} {inner rest : List Char} {lexeme : Lexeme}
    (solid : isBlank first = false) (noComment : first ≠ '\x27')
    (cutHere : cut first (inner ++ rest) = ⟨lexeme, first :: inner, rest⟩) :
    tokensFrom 0 (first :: (inner ++ rest)) =
      (⟨0, byteLength (first :: inner), lexeme.kind⟩, lexeme.problem) ::
        (tokensFrom 0 rest).map (shiftEntry (byteLength (first :: inner))) := by
  have onward := reads_tokensFrom (first :: inner) rest
  rw [tokensFrom_byteLength] at onward
  have continued : Reads ([] ++ [] ++ (cut first (inner ++ rest)).taken)
      (cut first (inner ++ rest)).rest
      ((tokensFrom 0 rest).map (shiftEntry (byteLength (first :: inner)))) := by
    rw [cutHere]
    exact onward
  have derivation := Reads.step (splitTrivia_of_solid solid noComment) continued
  have entries := tokensFrom_of_reads derivation
  rw [cutHere] at entries
  simpa [Cut.token] using entries

/-! ## Lines -/

private theorem splitTrivia_lineFeed (more : List Char) :
    splitTrivia ('\n' :: more) = ('\n' :: (splitTrivia more).1, (splitTrivia more).2) := by
  rw [splitTrivia, if_pos (by decide)]

/-- Derivations of two lines follow each other when no literal of the first is cut off. -/
theorem Reads.append_lineFeed (derivation : Reads behind ahead found)
    (closed : ∀ entry ∈ found, entry.2.any Problem.isCutOff = false)
    (onward : Reads (behind ++ ahead ++ ['\n']) more later) :
    Reads behind (ahead ++ '\n' :: more) (found ++ later) := by
  induction derivation with
  | @done behind ahead skipped split =>
      have whole := append_of_splitTrivia split
      rw [List.append_nil] at whole
      subst whole
      have passes : splitTrivia (skipped ++ ['\n'] ++ more) =
          (skipped ++ ['\n'] ++ (splitTrivia more).1, (splitTrivia more).2) := by
        have extended : splitTrivia (skipped ++ '\n' :: more) = _ :=
          splitTrivia_append_of_split split (fun _ => rfl)
        simpa [splitTrivia_lineFeed] using extended
      rw [List.append_assoc] at onward
      have line := Reads.behind_trivia passes onward
      rw [List.append_assoc] at line
      exact line
  | @step behind ahead skipped rest first found split _ ih =>
      have ends : (cut first rest).Ends ('\n' :: more) := by
        intro _
        exact ⟨closed _ List.mem_cons_self, '\n', by decide, rfl⟩
      refine Reads.step_append split ends (ih ?_ ?_)
      · intro entry member
        exact closed entry (List.mem_cons_of_mem _ member)
      · rw [(append_of_step behind split).2]
        exact onward

/-- The entries of two lines, from the entries of each. -/
theorem tokensFrom_lineFeed {front back : List Char}
    (closed : ∀ entry ∈ tokensFrom 0 front, entry.2.any Problem.isCutOff = false) :
    tokensFrom 0 (front ++ '\n' :: back) =
      tokensFrom 0 front ++ (tokensFrom 0 back).map (shiftEntry (byteLength front + 1)) := by
  have first := reads_tokensFrom [] front
  have second : Reads ([] ++ front ++ ['\n']) back _ := reads_tokensFrom (front ++ ['\n']) back
  rw [tokensFrom_byteLength, byteLength_append] at second
  exact tokensFrom_of_reads (first.append_lineFeed closed second)

/-! ## Longer texts -/

/-- All entries, but for one that may touch the end of the text, begin the derivation of every
longer text. -/
theorem Reads.settled (derivation : Reads behind ahead found) :
    ∃ settled touching, found = settled ++ touching ∧ touching.length ≤ 1 ∧
      (∀ entry ∈ settled, entry.1.stop < byteLength (behind ++ ahead)) ∧
      (∀ entry ∈ touching, entry.1.stop = byteLength (behind ++ ahead)) ∧
      ∀ more, ∃ later, Reads behind (ahead ++ more) (settled ++ later) := by
  induction derivation with
  | @done behind ahead skipped split =>
      refine ⟨[], [], rfl, Nat.zero_le _, by simp, by simp, ?_⟩
      intro more
      exact ⟨_, reads_tokensFrom behind (ahead ++ more)⟩
  | @step behind ahead skipped rest first found split onward ih =>
      have whole := (append_of_step behind split).2
      have stop : ((cut first rest).token (byteLength (behind ++ skipped))).stop =
          byteLength (behind ++ skipped ++ (cut first rest).taken) := (byteLength_append _ _).symm
      by_cases last : (cut first rest).rest = []
      · rw [last] at onward
        have nothing := eq_nil_of_reads_nil onward
        subst nothing
        rw [last, List.append_nil] at whole
        refine ⟨[], [_], rfl, Nat.le_refl _, by simp, ?_, ?_⟩
        · intro entry member
          rw [List.mem_singleton.mp member, stop, whole]
        · intro more
          exact ⟨_, reads_tokensFrom behind (ahead ++ more)⟩
      · obtain ⟨settled, touching, parts, single, before, touches, grows⟩ := ih
        rw [whole] at before touches
        refine ⟨_ :: settled, touching, congrArg _ parts, single, ?_, touches, ?_⟩
        · intro entry member
          rcases List.mem_cons.mp member with rfl | member
          · have left := byteLength_pos last
            rw [stop, ← whole, byteLength_append _ (cut first rest).rest]
            omega
          · exact before entry member
        · intro more
          obtain ⟨later, longer⟩ := grows more
          exact ⟨later, Reads.step_append split (fun ended => absurd ended last) longer⟩

/-- The entries that end before the end of a text begin the entries of every longer text, and
at most one entry ends later. -/
theorem filter_tokensFrom_prefix (front back : List Char) :
    (tokensFrom 0 front).filter (fun entry => entry.1.stop < byteLength front) <+:
        tokensFrom 0 (front ++ back) ∧
      ((tokensFrom 0 front).filter fun entry => byteLength front ≤ entry.1.stop).length ≤ 1 := by
  obtain ⟨settled, touching, parts, single, before, touches, grows⟩ :=
    (reads_tokensFrom [] front).settled
  obtain ⟨later, derivation⟩ := grows back
  have longer : tokensFrom 0 (front ++ back) = settled ++ later := tokensFrom_of_reads derivation
  have shorter : tokensFrom 0 front = settled ++ touching := parts
  rw [List.nil_append] at before touches
  have beyond : ∀ entry ∈ touching, byteLength front ≤ entry.1.stop := by
    intro entry member
    exact (touches entry member).ge
  rw [shorter, longer, List.filter_append, List.filter_append]
  constructor
  · rw [List.filter_eq_self.mpr (by simpa using before),
      List.filter_eq_nil_iff.mpr (by simpa using beyond), List.append_nil]
    exact List.prefix_append settled later
  · rw [List.filter_eq_nil_iff.mpr (by simpa using before),
      List.filter_eq_self.mpr (by simpa using beyond), List.nil_append]
    exact single

end Grammar

/-! ## Sources -/

/-- A source that begins with a lexeme has the token of the lexeme first, with its problem. Behind
it come the tokens and the diagnostics that the rest of the source has alone. -/
theorem lex_lexeme_front {front rest : String} {first : Char} {inner : List Char} {lexeme : Lexeme}
    (characters : front.toList = first :: inner) (solid : isBlank first = false)
    (noComment : first ≠ '\x27')
    (cutHere : Grammar.cut first (inner ++ rest.toList) = ⟨lexeme, front.toList, rest.toList⟩)
    (fits : (front ++ rest).utf8ByteSize ≤ maxOffset) :
    ∃ whole later, lex (front ++ rest) = .ok whole ∧ lex rest = .ok later ∧
      whole.tokens.tokens.toList = ⟨0, front.utf8ByteSize, lexeme.kind⟩ ::
        later.tokens.tokens.toList.map (·.shift front.utf8ByteSize) ∧
      whole.diagnostics = (lexeme.problem.map (⟨⟨0, front.utf8ByteSize⟩, ·⟩)).toList ++
        later.diagnostics.map (·.shift front.utf8ByteSize) := by
  have size := String.utf8ByteSize_append (s := front) (t := rest)
  obtain ⟨whole, scanned, tokens, diagnostics⟩ := lex_follows fits
  obtain ⟨later, restScanned, restTokens, restDiagnostics⟩ :=
    lex_follows (by omega : rest.utf8ByteSize ≤ maxOffset)
  rw [characters] at cutHere
  have entries := Grammar.tokensFrom_lexeme_front solid noComment cutHere
  have text : (front ++ rest).toList = first :: (inner ++ rest.toList) := by
    rw [String.toList_append, characters, List.cons_append]
  rw [← text, ← characters, byteLength_toList] at entries
  refine ⟨whole, later, scanned, restScanned, ?_, ?_⟩
  · rw [tokens, restTokens, Grammar.tokens, entries, List.map_cons, Grammar.map_fst_shiftEntry]
    rfl
  · rw [diagnostics, restDiagnostics, Grammar.diagnostics, entries, Grammar.diagnostics,
      ← Grammar.diagnosticsOf_shiftEntry]
    cases lexeme.problem with
    | none => rfl
    | some problem => rfl

/-- Two sources with a line feed between them are scanned one after the other, provided that
the first has no literal without an end. Its last comment may be open, and what stands between
its date marks need not be a date. -/
theorem lex_joins_lines {front back : String}
    (fits : (front ++ "\n" ++ back).utf8ByteSize ≤ maxOffset)
    (closed : ∀ result, lex front = .ok result → ∀ diagnostic ∈ result.diagnostics,
      diagnostic.problem ≠ .unterminatedString ∧ diagnostic.problem ≠ .unterminatedDate) :
    ∃ first second joined, lex front = .ok first ∧ lex back = .ok second ∧
      lex (front ++ "\n" ++ back) = .ok joined ∧
      joined.tokens.tokens.toList = first.tokens.tokens.toList ++
        second.tokens.tokens.toList.map (·.shift (front.utf8ByteSize + 1)) ∧
      joined.diagnostics = first.diagnostics ++
        second.diagnostics.map (·.shift (front.utf8ByteSize + 1)) := by
  have size : (front ++ "\n" ++ back).utf8ByteSize =
      front.utf8ByteSize + 1 + back.utf8ByteSize := by
    rw [String.utf8ByteSize_append, String.utf8ByteSize_append]
    rfl
  obtain ⟨first, frontScanned, frontTokens, frontDiagnostics⟩ :=
    lex_follows (by omega : front.utf8ByteSize ≤ maxOffset)
  obtain ⟨second, backScanned, backTokens, backDiagnostics⟩ :=
    lex_follows (by omega : back.utf8ByteSize ≤ maxOffset)
  obtain ⟨joined, scanned, tokens, diagnostics⟩ := lex_follows fits
  have ended : ∀ entry ∈ Grammar.tokensFrom 0 front.toList,
      entry.2.any Problem.isCutOff = false := by
    rintro ⟨token, problem⟩ member
    cases problem with
    | none => rfl
    | some problem =>
        have reported : ⟨token.span, problem⟩ ∈ Grammar.diagnostics front :=
          Grammar.mem_diagnosticsOf.mpr ⟨token, member, rfl⟩
        have allowed := closed first frontScanned _ (frontDiagnostics ▸ reported)
        cases problem with
        | unterminatedString => exact absurd rfl allowed.1
        | unterminatedDate => exact absurd rfl allowed.2
        | malformedDate => rfl
  have text : (front ++ "\n" ++ back).toList = front.toList ++ '\n' :: back.toList := by
    rw [String.toList_append, String.toList_append, List.append_assoc]
    rfl
  have entries : Grammar.tokensFrom 0 (front.toList ++ '\n' :: back.toList) = _ :=
    Grammar.tokensFrom_lineFeed ended
  rw [← text, byteLength_toList] at entries
  refine ⟨first, second, joined, frontScanned, backScanned, scanned, ?_, ?_⟩
  · rw [tokens, frontTokens, backTokens, Grammar.tokens, entries, List.map_append,
      Grammar.map_fst_shiftEntry]
    rfl
  · rw [diagnostics, frontDiagnostics, backDiagnostics, Grammar.diagnostics, entries,
      Grammar.diagnosticsOf_append, Grammar.diagnosticsOf_shiftEntry]
    rfl

/-- A date that is none, half a pair, and a comment that is open at the end of the first line. -/
theorem lex_joins_lines_openComment :
    let front := "#13# \"a\" <'\u00b2"
    let back := ">\"b"
    ((front ++ "\n" ++ back).utf8ByteSize ≤ maxOffset ∧
      ∀ result, lex front = .ok result → ∀ diagnostic ∈ result.diagnostics,
        diagnostic.problem ≠ .unterminatedString ∧ diagnostic.problem ≠ .unterminatedDate) ∧
    ∃ first second joined, lex front = .ok first ∧ lex back = .ok second ∧
      lex (front ++ "\n" ++ back) = .ok joined ∧
      joined.tokens.tokens.toList = first.tokens.tokens.toList ++
        second.tokens.tokens.toList.map (·.shift (front.utf8ByteSize + 1)) ∧
      joined.diagnostics = first.diagnostics ++
        second.diagnostics.map (·.shift (front.utf8ByteSize + 1)) := by
  intro front back
  have fits : (front ++ "\n" ++ back).utf8ByteSize ≤ maxOffset := by decide +kernel
  have closed : ∀ result, lex front = .ok result → ∀ diagnostic ∈ result.diagnostics,
      diagnostic.problem ≠ .unterminatedString ∧ diagnostic.problem ≠ .unterminatedDate := by
    intro result scanned
    obtain ⟨_, again, _, diagnostics⟩ := lex_follows (fits_of_lex scanned)
    cases scanned.symm.trans again
    rw [diagnostics]
    decide +kernel
  exact ⟨⟨fits, closed⟩, lex_joins_lines fits closed⟩

/-- The tokens of a source that end before its end, and their diagnostics, begin those of every
longer source. At most one token does touch the end. -/
theorem lex_keeps_settled_tokens {front back : String}
    (fits : (front ++ back).utf8ByteSize ≤ maxOffset) :
    ∃ first longer, lex front = .ok first ∧ lex (front ++ back) = .ok longer ∧
      first.tokens.tokens.toList.filter (fun token => token.stop < front.utf8ByteSize) <+:
        longer.tokens.tokens.toList ∧
      first.diagnostics.filter (fun diagnostic => diagnostic.span.stop < front.utf8ByteSize) <+:
        longer.diagnostics ∧
      (first.tokens.tokens.toList.filter
        fun token => front.utf8ByteSize ≤ token.stop).length ≤ 1 := by
  have size := String.utf8ByteSize_append (s := front) (t := back)
  obtain ⟨first, frontScanned, frontTokens, frontDiagnostics⟩ :=
    lex_follows (by omega : front.utf8ByteSize ≤ maxOffset)
  obtain ⟨longer, scanned, tokens, diagnostics⟩ := lex_follows fits
  obtain ⟨settled, single⟩ := Grammar.filter_tokensFrom_prefix front.toList back.toList
  rw [← String.toList_append, byteLength_toList] at settled
  rw [byteLength_toList] at single
  refine ⟨first, longer, frontScanned, scanned, ?_, ?_, ?_⟩
  · rw [frontTokens, tokens, Grammar.tokens, List.filter_map]
    exact settled.map _
  · rw [frontDiagnostics, diagnostics]
    have reported := Grammar.filter_diagnosticsOf (fun span => span.stop < front.utf8ByteSize)
      (Grammar.tokensFrom 0 front.toList)
    exact reported ▸ settled.filterMap _
  · rw [frontTokens, Grammar.tokens, List.filter_map, List.length_map]
    exact single

/-- Text that turns half a pair into a pair: the malformed date in front of it stays. -/
theorem lex_keeps_settled_tokens_halfPair :
    let front := "x #1# \u00b2"
    let back := "[\""
    (front ++ back).utf8ByteSize ≤ maxOffset ∧
    ∃ first longer, lex front = .ok first ∧ lex (front ++ back) = .ok longer ∧
      first.tokens.tokens.toList.filter (fun token => token.stop < front.utf8ByteSize) <+:
        longer.tokens.tokens.toList ∧
      first.diagnostics.filter (fun diagnostic => diagnostic.span.stop < front.utf8ByteSize) <+:
        longer.diagnostics ∧
      (first.tokens.tokens.toList.filter
        fun token => front.utf8ByteSize ≤ token.stop).length ≤ 1 := by
  intro front back
  have fits : (front ++ back).utf8ByteSize ≤ maxOffset := by decide +kernel
  exact ⟨fits, lex_keeps_settled_tokens fits⟩

end FormulaLexer
