import FormulaLexer.Proofs.Region
import FormulaLexer.Proofs.Safety

/-!
# Diagnostics and their tokens

A request records at most one problem, and records it at the place of the token it answers
with. The diagnostics of a source therefore go along with some of its tokens, in their order.
Which tokens these are, and with which problem, shows in their kinds and their texts. A
literal without an end comes last and reaches to the end of the source.
-/

set_option autoImplicit false

namespace FormulaLexer

open Grammar (byteLength)

/-! ## Requests -/

namespace Scanner

variable {buffer : SourceBuffer} {scanner after : Scanner buffer} {answer : Option Token}

/-- What a request may record: nothing, or one problem of the token that it answers with. -/
def Records (scanner : Scanner buffer) (answer : Option Token) (after : Scanner buffer) : Prop :=
  after.diagnostics = scanner.diagnostics ∨
    ∃ token problem, answer = some token ∧
      after.diagnostics = scanner.diagnostics.push ⟨token.span, problem⟩

theorem records_of_next (stands : scanner.Stands)
    (produced : scanner.next = .ok (answer, after)) : scanner.Records answer after := by
  obtain ⟨cursor, diagnostics⟩ := scanner
  obtain ⟨behind, ahead, place, holds⟩ := stands
  cases place
  obtain ⟨skipped, rest, split⟩ : ∃ skipped rest, Grammar.splitTrivia ahead = (skipped, rest) :=
    ⟨_, _, rfl⟩
  cases rest with
  | nil =>
      cases (next_done holds split).symm.trans produced
      exact .inl rfl
  | cons first rest =>
      cases (next_step holds split).symm.trans produced
      unfold Records pass
      cases (Grammar.cut first rest).lexeme.problem with
      | none => exact .inl rfl
      | some problem => exact .inr ⟨_, problem, rfl, rfl⟩

/-- After any number of requests to a new scanner, the next one records at most one problem. -/
theorem records_after_take {chars : List Char} (holds : buffer.Holds chars) (count : Nat) :
    ∃ answers scanner answer after, (start buffer).take count = .ok (answers, scanner) ∧
      scanner.next = .ok (answer, after) ∧ scanner.Records answer after := by
  obtain ⟨answers, scanner, taken, stands⟩ := take_of_stands (stands_start holds) count
  obtain ⟨answer, after, produced, _, _⟩ := next_of_stands stands
  exact ⟨answers, scanner, answer, after, taken, produced, records_of_next stands produced⟩

end Scanner

/-! ## Lexemes -/

/-- `Judged text lexeme`: the problem of the lexeme shows in the text it was cut from. -/
inductive Judged : List Char → Lexeme → Prop where
  | sound {text : List Char} {kind : TokenKind} : kind ≠ .error → Judged text (.sound kind)
  | unterminatedString {text : List Char} : Judged text .unterminatedString
  | malformedDate {inside : List Char} :
      '#' ∉ inside → Judged ('#' :: inside ++ ['#']) ⟨.error, some .malformedDate⟩
  | unterminatedDate {inside : List Char} :
      '#' ∉ inside → Judged ('#' :: inside) .unterminatedDate

private theorem judged_stringCut (rest : List Char) :
    Judged (Grammar.stringCut rest).taken (Grammar.stringCut rest).lexeme := by
  unfold Grammar.stringCut
  split
  · exact .sound (by decide)
  · exact .unterminatedString

private theorem judged_dateCut (rest : List Char) :
    Judged (Grammar.dateCut rest).taken (Grammar.dateCut rest).lexeme := by
  rw [Grammar.dateCut]
  rcases search_cases '#' rest with
    ⟨absent, _, left⟩ | ⟨inside, after, absent, rfl, taken, left⟩
  · rw [left]
    exact .unterminatedDate absent
  · rw [taken, left]
    cases Grammar.isDate inside with
    | true => exact .sound (by decide)
    | false => exact .malformedDate absent

private theorem judged_cut (first : Char) (rest : List Char) :
    Judged (Grammar.cut first rest).taken (Grammar.cut first rest).lexeme := by
  by_cases quote : first = '"'
  · rw [Grammar.cut, if_pos quote]
    exact judged_stringCut rest
  by_cases mark : first = '#'
  · rw [Grammar.cut, if_neg quote, if_pos mark]
    exact judged_dateCut rest
  · obtain ⟨kind, plain, outside⟩ := Grammar.lexeme_of_plain quote mark
    rw [plain]
    refine .sound ?_
    rintro rfl
    exact outside (by decide)

/-! ## Tokens -/

section

variable {behind ahead : List Char} {found : List (Token × Option Problem)}
  {token : Token} {problem : Problem}

/-- An entry of a source is judged by the text of its token. -/
theorem judged_of_mem {source : String} {problem : Option Problem}
    (member : (token, problem) ∈ Grammar.tokensFrom 0 source.toList) :
    Judged (token.text source).toList ⟨token.kind, problem⟩ := by
  obtain ⟨before, first, rest, whole, _, cutHere⟩ := cut_of_mem member
  cases cutHere
  rw [text_of_cut whole, String.toList_ofList]
  exact judged_cut first rest

/-- Nothing follows a literal that is cut off, and it ends with the text. -/
theorem nothing_behind_cutOff {earlier later : List (Token × Option Problem)}
    {entry : Token × Option Problem}
    (derivation : Grammar.Reads behind ahead (earlier ++ entry :: later))
    (cutOff : entry.2.any Problem.isCutOff = true) :
    later = [] ∧ entry.1.stop = byteLength (behind ++ ahead) := by
  obtain ⟨before, first, rest, whole, _, rfl, onward⟩ := derivation.at_entry
  have nothing := Grammar.rest_eq_nil_of_cutOff cutOff
  have taken := (Grammar.taken_append_rest first rest).1
  rw [nothing] at onward
  rw [nothing, List.append_nil] at taken
  refine ⟨Grammar.eq_nil_of_reads_nil onward, ?_⟩
  rw [← whole, ← taken, byteLength_append]
  rfl

/-- A literal that is cut off is the last entry, and the only one of its sort. -/
theorem last_of_cutOff (derivation : Grammar.Reads behind ahead found)
    (member : (token, some problem) ∈ found) (cutOff : problem.isCutOff = true) :
    token.stop = byteLength (behind ++ ahead) ∧
      ∃ earlier, found = earlier ++ [(token, some problem)] ∧
        ∀ entry ∈ earlier, ¬ entry.2.any Problem.isCutOff = true := by
  obtain ⟨earlier, later, rfl⟩ := List.append_of_mem member
  obtain ⟨rfl, stop⟩ := nothing_behind_cutOff derivation cutOff
  refine ⟨stop, earlier, rfl, ?_⟩
  intro entry among also
  obtain ⟨before, between, rfl⟩ := List.append_of_mem among
  rw [List.append_assoc, List.cons_append] at derivation
  obtain ⟨nothing, _⟩ := nothing_behind_cutOff derivation also
  simp at nothing

private theorem countP_cutOff_le_one (derivation : Grammar.Reads behind ahead found) :
    found.countP (fun entry => entry.2.any Problem.isCutOff) ≤ 1 := by
  by_cases present : ∃ entry ∈ found, entry.2.any Problem.isCutOff = true
  · obtain ⟨⟨token, problem⟩, member, cutOff⟩ := present
    obtain ⟨problem, rfl, cutOff⟩ := (Option.any_eq_true ..).mp cutOff
    obtain ⟨_, earlier, rfl, others⟩ := last_of_cutOff derivation member cutOff
    rw [List.countP_append, List.countP_eq_zero.mpr others, Nat.zero_add]
    exact List.countP_le_length
  · rw [List.countP_eq_zero.mpr]
    · exact Nat.zero_le 1
    · intro entry member cutOff
      exact present ⟨entry, member, cutOff⟩

/-- The tokens at whose places there are diagnostics are those of the entries with a problem. -/
theorem filter_diagnosed (derivation : Grammar.Reads behind ahead found) :
    (found.map (·.1)).filter (fun token =>
        (Grammar.diagnosticsOf found).any fun diagnostic => diagnostic.span = token.span) =
      (found.filter fun entry => entry.2.isSome).map (·.1) := by
  rw [List.filter_map]
  refine congrArg _ (List.filter_congr ?_)
  rintro ⟨token, problem⟩ member
  rw [Bool.eq_iff_iff, Function.comp_apply, List.any_eq_true]
  constructor
  · rintro ⟨⟨span, reported⟩, diagnosed, same⟩
    cases of_decide_eq_true same
    cases (Grammar.mem_diagnosticsOf_iff derivation member reported).mp diagnosed
    rfl
  · intro faulty
    obtain ⟨reported, rfl⟩ := Option.isSome_iff_exists.mp faulty
    exact ⟨_, (Grammar.mem_diagnosticsOf_iff derivation member reported).mpr rfl, by simp⟩

private theorem map_span_diagnosticsOf (found : List (Token × Option Problem)) :
    (Grammar.diagnosticsOf found).map (·.span) =
      ((found.filter fun entry => entry.2.isSome).map (·.1)).map Token.span := by
  induction found with
  | nil => rfl
  | cons entry found ih =>
      obtain ⟨token, problem⟩ := entry
      cases problem with
      | none => exact ih
      | some problem => exact congrArg (token.span :: ·) ih

/-- The diagnostic of a literal that is cut off is the last one, at the place of the last
token. -/
theorem getLast?_of_cutOff (derivation : Grammar.Reads behind ahead found)
    {diagnostic : Diagnostic} (member : diagnostic ∈ Grammar.diagnosticsOf found)
    (cutOff : diagnostic.problem.isCutOff = true) :
    (Grammar.diagnosticsOf found).getLast? = some diagnostic ∧
      (found.map (·.1)).getLast?.map Token.span = some diagnostic.span ∧
      diagnostic.span.stop = byteLength (behind ++ ahead) := by
  obtain ⟨span, problem⟩ := diagnostic
  obtain ⟨token, among, rfl⟩ := Grammar.mem_diagnosticsOf.mp member
  obtain ⟨stop, earlier, rfl, _⟩ := last_of_cutOff derivation among cutOff
  refine ⟨?_, ?_, stop⟩
  · rw [Grammar.diagnosticsOf_append]
    exact List.getLast?_concat
  · rw [List.map_append]
    exact congrArg (Option.map Token.span) List.getLast?_concat

private theorem countP_diagnosticsOf_le_one (derivation : Grammar.Reads behind ahead found) :
    (Grammar.diagnosticsOf found).countP (·.problem.isCutOff) ≤ 1 := by
  rw [Grammar.diagnosticsOf, List.countP_filterMap]
  refine Nat.le_trans (List.countP_mono_left ?_) (countP_cutOff_le_one derivation)
  rintro ⟨token, problem⟩ _ cutOff
  cases problem with
  | none => cases cutOff
  | some problem => exact cutOff

private theorem ordered_diagnosticsOf (derivation : Grammar.Reads behind ahead found) :
    (Grammar.diagnosticsOf found).Pairwise fun diagnostic following =>
      diagnostic.span.stop ≤ following.span.start := by
  refine (Grammar.ordered_of_reads derivation).filterMap _ ?_
  rintro ⟨token, problem⟩ ⟨later, laterProblem⟩ ordered diagnostic same following next
  obtain ⟨_, _, rfl⟩ := Option.map_eq_some_iff.mp same
  obtain ⟨_, _, rfl⟩ := Option.map_eq_some_iff.mp next
  exact ordered

end

/-! ## Sources -/

/-- The tokens of a result at whose places there are diagnostics. -/
def LexResult.faulty (result : LexResult) : List Token :=
  result.tokens.tokens.toList.filter fun token =>
    result.diagnostics.any fun diagnostic => diagnostic.span = token.span

/-- The text has a second date mark, and it comes last. -/
def endsWithSecondMark (text : String) : Bool :=
  text.toList.count '#' = 2 && text.toList.getLast? = some '#'

/-- The text has at most one date mark. -/
def lacksSecondMark (text : String) : Bool :=
  text.toList.count '#' < 2

/-- The diagnostics of a result, told from its tokens and their texts. -/
structure Diagnosed (source : String) (result : LexResult) : Prop where
  places : result.diagnostics.map (·.span) = result.faulty.map Token.span
  ordered : result.diagnostics.Pairwise fun diagnostic following =>
    diagnostic.span.stop ≤ following.span.start
  errors : ∀ token ∈ result.tokens.tokens.toList, token.kind = .error → token ∈ result.faulty
  kinds : ∀ token ∈ result.faulty, token.kind = .error ∨
    token.kind = .string ∧ ⟨token.span, .unterminatedString⟩ ∈ result.diagnostics
  oneString : result.faulty.countP (fun token => token.kind = .string) ≤ 1
  malformedDate : ∀ token ∈ result.tokens.tokens.toList,
    ⟨token.span, .malformedDate⟩ ∈ result.diagnostics ↔
      token.kind = .error ∧ endsWithSecondMark (token.text source) = true
  unterminatedDate : ∀ token ∈ result.tokens.tokens.toList,
    ⟨token.span, .unterminatedDate⟩ ∈ result.diagnostics ↔
      token.kind = .error ∧ lacksSecondMark (token.text source) = true
  cutOff : ∀ diagnostic ∈ result.diagnostics, diagnostic.problem.isCutOff = true →
    result.diagnostics.getLast? = some diagnostic ∧
      result.tokens.tokens.toList.getLast?.map Token.span = some diagnostic.span ∧
      diagnostic.span.stop = source.utf8ByteSize
  oneCutOff : result.diagnostics.countP (·.problem.isCutOff) ≤ 1

/-! ### Problems and texts -/

section

variable {text : String} {kind : TokenKind} {problem : Option Problem}

private theorem malformedDate_iff (judged : Judged text.toList ⟨kind, problem⟩) :
    problem = some .malformedDate ↔ kind = .error ∧ endsWithSecondMark text = true := by
  unfold endsWithSecondMark
  generalize text.toList = chars at judged ⊢
  cases judged with
  | sound proper => simp [proper]
  | unterminatedString => simp
  | @malformedDate inside absent =>
      have last : ('#' :: (inside ++ ['#'])).getLast? = some '#' := by
        rw [← List.cons_append]
        exact List.getLast?_concat
      simp [List.count_eq_zero.mpr absent, last]
  | unterminatedDate absent => simp [List.count_eq_zero.mpr absent]

private theorem unterminatedDate_iff (judged : Judged text.toList ⟨kind, problem⟩) :
    problem = some .unterminatedDate ↔ kind = .error ∧ lacksSecondMark text = true := by
  unfold lacksSecondMark
  generalize text.toList = chars at judged ⊢
  cases judged with
  | sound proper => simp [proper]
  | unterminatedString => simp
  | malformedDate absent => simp [List.count_eq_zero.mpr absent]
  | unterminatedDate absent => simp [List.count_eq_zero.mpr absent]

/-- An entry with a problem is an error, or a string that is cut off. -/
theorem kind_of_judged {chars : List Char} {problem : Problem}
    (judged : Judged chars ⟨kind, some problem⟩) :
    kind = .error ∨ kind = .string ∧ problem = .unterminatedString := by
  cases judged with
  | unterminatedString => exact .inr ⟨rfl, rfl⟩
  | malformedDate => exact .inl rfl
  | unterminatedDate => exact .inl rfl

private theorem isSome_of_error {chars : List Char} (judged : Judged chars ⟨.error, problem⟩) :
    problem.isSome = true := by
  cases judged with
  | sound proper => exact absurd rfl proper
  | malformedDate => rfl
  | unterminatedDate => rfl

end

section

variable {source : String} {result : LexResult} {token : Token}

private theorem faulty_eq (tokens : result.tokens.tokens.toList = Grammar.tokens source)
    (diagnostics : result.diagnostics = Grammar.diagnostics source) :
    result.faulty =
      ((Grammar.tokensFrom 0 source.toList).filter fun entry => entry.2.isSome).map (·.1) := by
  rw [LexResult.faulty, tokens, diagnostics]
  exact filter_diagnosed (Grammar.reads_tokensFrom [] source.toList)

private theorem mem_faulty_iff (tokens : result.tokens.tokens.toList = Grammar.tokens source)
    (diagnostics : result.diagnostics = Grammar.diagnostics source) :
    token ∈ result.faulty ↔
      ∃ problem, (token, some problem) ∈ Grammar.tokensFrom 0 source.toList := by
  rw [faulty_eq tokens diagnostics, List.mem_map]
  constructor
  · rintro ⟨⟨_, problem⟩, member, rfl⟩
    obtain ⟨among, faulty⟩ := List.mem_filter.mp member
    obtain ⟨problem, rfl⟩ := Option.isSome_iff_exists.mp faulty
    exact ⟨problem, among⟩
  · rintro ⟨problem, among⟩
    exact ⟨_, List.mem_filter.mpr ⟨among, rfl⟩, rfl⟩

private theorem countP_string_le_one (tokens : result.tokens.tokens.toList = Grammar.tokens source)
    (diagnostics : result.diagnostics = Grammar.diagnostics source) :
    result.faulty.countP (fun token => token.kind = .string) ≤ 1 := by
  have derivation := Grammar.reads_tokensFrom [] source.toList
  rw [faulty_eq tokens diagnostics, List.countP_map, List.countP_filter]
  refine Nat.le_trans (List.countP_mono_left ?_) (countP_cutOff_le_one derivation)
  rintro ⟨token, problem⟩ among faulty
  simp only [Function.comp_apply, Bool.and_eq_true, decide_eq_true_eq] at faulty
  obtain ⟨string, faulty⟩ := faulty
  obtain ⟨problem, rfl⟩ := Option.isSome_iff_exists.mp faulty
  rcases kind_of_judged (judged_of_mem among) with error | ⟨_, rfl⟩
  · cases string.symm.trans error
  · rfl

/-- A result that follows the grammar has the diagnostics that its tokens show. -/
theorem diagnosed_of_follows (tokens : result.tokens.tokens.toList = Grammar.tokens source)
    (diagnostics : result.diagnostics = Grammar.diagnostics source) :
    Diagnosed source result := by
  have derivation : Grammar.Reads [] source.toList (Grammar.tokensFrom 0 source.toList) :=
    Grammar.reads_tokensFrom [] source.toList
  have reported : ∀ {token problem}, (token, problem) ∈ Grammar.tokensFrom 0 source.toList →
      ∀ reported, ⟨token.span, reported⟩ ∈ result.diagnostics ↔ problem = some reported := by
    intro token problem member reported
    rw [diagnostics]
    exact Grammar.mem_diagnosticsOf_iff derivation member reported
  constructor
  case places =>
    rw [faulty_eq tokens diagnostics, diagnostics]
    exact map_span_diagnosticsOf _
  case ordered =>
    rw [diagnostics]
    exact ordered_diagnosticsOf derivation
  case errors =>
    intro token member kind
    obtain ⟨problem, among⟩ := entry_of_mem tokens member
    have judged := judged_of_mem among
    rw [kind] at judged
    obtain ⟨problem, rfl⟩ := Option.isSome_iff_exists.mp (isSome_of_error judged)
    exact (mem_faulty_iff tokens diagnostics).mpr ⟨problem, among⟩
  case kinds =>
    intro token member
    obtain ⟨problem, among⟩ := (mem_faulty_iff tokens diagnostics).mp member
    rcases kind_of_judged (judged_of_mem among) with error | ⟨string, rfl⟩
    · exact .inl error
    · exact .inr ⟨string, (reported among _).mpr rfl⟩
  case oneString => exact countP_string_le_one tokens diagnostics
  case malformedDate =>
    intro token member
    obtain ⟨problem, among⟩ := entry_of_mem tokens member
    exact (reported among _).trans (malformedDate_iff (judged_of_mem among))
  case unterminatedDate =>
    intro token member
    obtain ⟨problem, among⟩ := entry_of_mem tokens member
    exact (reported among _).trans (unterminatedDate_iff (judged_of_mem among))
  case cutOff =>
    intro diagnostic member cutOff
    rw [diagnostics] at member
    obtain ⟨last, place, stop⟩ := getLast?_of_cutOff derivation member cutOff
    rw [List.nil_append, byteLength_toList] at stop
    rw [diagnostics, tokens]
    exact ⟨last, place, stop⟩
  case oneCutOff =>
    rw [diagnostics]
    exact countP_diagnosticsOf_le_one derivation

end

/-- A source is scanned unless it is too large. Each request then records at most one problem,
at the place of its token, and the diagnostics of the whole go along with the tokens that show
a problem. -/
theorem lex_diagnoses_tokens (source : String) :
    match lex source with
    | .ok result =>
        Diagnosed source result ∧
          ∃ buffer, sourceBuffer source = .ok buffer ∧
            ∀ count, ∃ answers scanner answer after,
              (Scanner.start buffer).take count = .ok (answers, scanner) ∧
                scanner.next = .ok (answer, after) ∧ scanner.Records answer after
    | .error _ => maxOffset < source.utf8ByteSize := by
  apply lex_elim
  intro result fits tokens diagnostics
  obtain ⟨buffer, made, holds⟩ := sourceBuffer_eq_ok fits
  exact ⟨diagnosed_of_follows tokens diagnostics, buffer, made, Scanner.records_after_take holds⟩

example :
    (lex "##\"\"#1# #").toOption.map (fun result => (result.faulty, result.diagnostics)) =
      some ([⟨0, 2, .error⟩, ⟨4, 7, .error⟩, ⟨8, 9, .error⟩],
        [⟨⟨0, 2⟩, .malformedDate⟩, ⟨⟨4, 7⟩, .malformedDate⟩, ⟨⟨8, 9⟩, .unterminatedDate⟩]) := by
  decide +kernel

end FormulaLexer
