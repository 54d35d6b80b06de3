import FormulaLexer.Proofs.Isolation
import FormulaLexer.Proofs.Tiling

/-!
# Layout

What stands between tokens carries no meaning. The tokens of a source, written down again with
other blanks and comments between them, are read as the same texts of the same kinds with the same
problems. A blank behind a token keeps it from joining with what follows, and the text of a comment
never reaches a token. Only the last literal of a source can lack its end, and it stays the last.
-/

set_option autoImplicit false

namespace FormulaLexer

open Grammar (byteLength)

/-! ## Gaps in front of tokens -/

namespace Grammar

variable {gap text more behind ahead : List Char} {lexeme : Lexeme}
  {found later : List (Token × Option Problem)}

private theorem splitTrivia_gap (trivial : Gap false gap) (more : List Char) :
    splitTrivia (gap ++ more) = (gap ++ (splitTrivia more).1, (splitTrivia more).2) := by
  induction trivial with
  | empty => rfl
  | @blank char rest listed _ ih =>
      have blank : blanks.contains char = true := List.contains_iff_mem.mpr listed
      rw [List.cons_append, splitTrivia, if_pos blank, ih]
      rfl
  | @comment body rest absent _ ih =>
      obtain ⟨inside, ending⟩ := search_append absent (rest ++ more)
      have text : '\x27' :: body ++ '\n' :: rest ++ more =
          '\x27' :: (body ++ '\n' :: (rest ++ more)) := by simp
      rw [text, splitTrivia_comment, inside, ending, splitTrivia, if_pos (by decide), ih]
      simp
  | openComment last => cases last

/-- A lexeme with an end of its own is read in front of a blank as it is read alone. -/
theorem Reads.before_blank (whole : Whole text lexeme)
    (closed : lexeme.problem.any Problem.isCutOff = false)
    (blank : ∃ char ∈ blanks, more.head? = some char)
    (onward : Reads (behind ++ text) more later) :
    Reads behind (text ++ more)
      ((⟨byteLength behind, byteLength (behind ++ text), lexeme.kind⟩, lexeme.problem) ::
        later) := by
  cases whole with
  | @intro first inner _ solid noComment alone =>
      have ends : (cut first inner).Ends more := by
        intro _
        rw [alone]
        exact ⟨closed, blank⟩
      have continued : Reads (behind ++ [] ++ (cut first inner).taken)
          ((cut first inner).rest ++ more) later := by
        rw [alone, List.append_nil]
        exact onward
      have step := Reads.step_append (splitTrivia_of_solid solid noComment) ends continued
      rw [alone] at step
      simpa [Cut.token] using step

/-- Nothing is read behind a literal that is cut off. -/
theorem closed_of_reads (derivation : Reads behind ahead found) :
    found.Pairwise fun entry _ => entry.2.any Problem.isCutOff = false := by
  induction derivation with
  | done => exact List.Pairwise.nil
  | @step behind ahead skipped rest first found split onward ih =>
      refine List.Pairwise.cons ?_ ih
      intro following member
      cases cutOff : (cut first rest).lexeme.problem.any Problem.isCutOff with
      | false => rfl
      | true =>
          rw [rest_eq_nil_of_cutOff cutOff] at onward
          rw [eq_nil_of_reads_nil onward] at member
          cases member

end Grammar

/-! ## Texts with separators between them -/

/-- A text that keeps any two tokens apart: it begins with a blank and goes on with blanks and
with comments that a line feed ends. -/
structure Separates (text : String) : Prop where
  begins : ∃ char ∈ [' ', '\t', '\r', '\n'], text.toList.head? = some char
  gap : Gap false text.toList

/-- Texts in their order, with a separator behind each but the last. -/
def spaced : List String → List String → String
  | text :: texts, separator :: separators => text ++ separator ++ spaced texts separators
  | texts, _ => String.join texts

theorem spaced_nil : spaced [] [] = "" := by simp [spaced]

theorem spaced_singleton (text : String) : spaced [text] [] = text := by simp [spaced]

private theorem toList_spaced_cons (text : String) (texts : List String) (separator : String)
    (separators : List String) :
    (spaced (text :: texts) (separator :: separators)).toList =
      text.toList ++ (separator.toList ++ (spaced texts separators).toList) := by
  rw [spaced, String.toList_append, String.toList_append, List.append_assoc]

/-- What a scan finds when the places are left out: the texts of the tokens and their lexemes. -/
def lexemesOf (source : String) (found : List (Token × Option Problem)) : List (String × Lexeme) :=
  found.map fun entry => (entry.1.text source, ⟨entry.1.kind, entry.2⟩)

section

variable {source text separator : String} {behind more : List Char} {lexeme : Lexeme}
  {found : List (Token × Option Problem)}

private theorem lexemesOf_cons (place : source.toList = behind ++ text.toList ++ more) :
    lexemesOf source ((⟨byteLength behind, byteLength (behind ++ text.toList), lexeme.kind⟩,
      lexeme.problem) :: found) = (text, lexeme) :: lexemesOf source found := by
  have region := region?_between place
  simp only [lexemesOf, List.map_cons, Token.text, region, Option.getD_some, String.ofList_toList]

/-- One text and its separator, in front of a text that is read already. -/
theorem reads_separated (whole : Grammar.Whole text.toList lexeme)
    (closed : lexeme.problem.any Problem.isCutOff = false) (separates : Separates separator)
    (onward : Grammar.Reads (behind ++ text.toList ++ separator.toList) more found) :
    Grammar.Reads behind (text.toList ++ (separator.toList ++ more))
      ((⟨byteLength behind, byteLength (behind ++ text.toList), lexeme.kind⟩, lexeme.problem) ::
        found) := by
  obtain ⟨blank, listed, head⟩ := separates.begins
  have begins : (separator.toList ++ more).head? = some blank := by
    rw [List.head?_append, head]
    rfl
  have passes := Grammar.splitTrivia_gap separates.gap more
  exact .before_blank whole closed ⟨blank, listed, begins⟩ (.behind_trivia passes onward)

/-- Texts that are one lexeme each are read back one by one from between their separators. -/
theorem reads_spaced {pieces : List (String × Lexeme)} {separators : List String}
    (whole : ∀ piece ∈ pieces, Grammar.Whole piece.1.toList piece.2)
    (closed : pieces.Pairwise fun piece _ => piece.2.problem.any Problem.isCutOff = false)
    (apart : ∀ separator ∈ separators, Separates separator)
    (count : separators.length = pieces.length - 1)
    (place : source.toList = behind ++ (spaced (pieces.map (·.1)) separators).toList) :
    ∃ found, Grammar.Reads behind (spaced (pieces.map (·.1)) separators).toList found ∧
      lexemesOf source found = pieces := by
  induction pieces generalizing behind separators with
  | nil =>
      have none : separators = [] := List.length_eq_zero_iff.mp count
      subst none
      have nothing : Grammar.splitTrivia (spaced [] []).toList = ([], []) := by
        rw [spaced_nil, String.toList_empty, Grammar.splitTrivia]
      exact ⟨[], .done nothing, rfl⟩
  | cons piece pieces ih =>
      obtain ⟨text, lexeme⟩ := piece
      obtain ⟨single, whole⟩ := List.forall_mem_cons.mp whole
      obtain ⟨ended, closed⟩ := List.pairwise_cons.mp closed
      rw [List.map_cons] at place ⊢
      cases separators with
      | nil =>
          have last : pieces = [] := List.length_eq_zero_iff.mp count.symm
          subst last
          rw [List.map_nil, spaced_singleton] at place ⊢
          refine ⟨_, Grammar.reads_whole single behind, ?_⟩
          exact lexemesOf_cons (place.trans (List.append_nil _).symm)
      | cons separator separators =>
          obtain ⟨separates, apart⟩ := List.forall_mem_cons.mp apart
          have follows : pieces ≠ [] := by
            rintro rfl
            cases count
          obtain ⟨following, member⟩ := List.exists_mem_of_ne_nil pieces follows
          have further : separators.length = pieces.length - 1 := by
            simp only [List.length_cons] at count
            omega
          rw [toList_spaced_cons] at place ⊢
          have onward : source.toList = behind ++ text.toList ++ separator.toList ++
              (spaced (pieces.map (·.1)) separators).toList := by
            simpa only [List.append_assoc] using place
          obtain ⟨found, derivation, texts⟩ := ih whole closed apart further onward
          refine ⟨_, reads_separated single (ended following member) separates derivation, ?_⟩
          rw [lexemesOf_cons (place.trans (List.append_assoc _ _ _).symm), texts]

end

/-! ## Sources -/

section

variable {source : String} {result : LexResult}

/-- The lexemes of a source are the lexemes of its tokens, however these are spaced. -/
theorem lexemesOf_spaced (source : String) {separators : List String}
    (apart : ∀ separator ∈ separators, Separates separator)
    (count : separators.length = (Grammar.tokensFrom 0 source.toList).length - 1) :
    let pieces := lexemesOf source (Grammar.tokensFrom 0 source.toList)
    let relaid := spaced (pieces.map (·.1)) separators
    lexemesOf relaid (Grammar.tokensFrom 0 relaid.toList) = pieces := by
  intro pieces relaid
  have whole : ∀ piece ∈ pieces, Grammar.Whole piece.1.toList piece.2 := by
    intro piece member
    obtain ⟨⟨token, problem⟩, entry, rfl⟩ := List.mem_map.mp member
    exact (whole_of_mem entry).1
  have closed : pieces.Pairwise fun piece _ => piece.2.problem.any Problem.isCutOff = false :=
    List.pairwise_map.mpr (Grammar.closed_of_reads (Grammar.reads_tokensFrom [] source.toList))
  have pieceCount : separators.length = pieces.length - 1 := by
    rw [count]
    exact congrArg (· - 1) (List.length_map _).symm
  have place : relaid.toList = [] ++ (spaced (pieces.map (·.1)) separators).toList := rfl
  obtain ⟨found, derivation, texts⟩ := reads_spaced whole closed apart pieceCount place
  have entries := Grammar.tokensFrom_of_reads derivation
  rw [byteLength_nil] at entries
  rw [entries, texts]

private theorem map_entries_view {α : Type}
    (tokens : result.tokens.tokens.toList = Grammar.tokens source)
    (read : TokenKind → String → α) :
    (result.view source).entries.map (fun entry => read entry.1.kind entry.2) =
      (lexemesOf source (Grammar.tokensFrom 0 source.toList)).map
        (fun piece => read piece.2.kind piece.1) := by
  simp only [LexResult.view, TokenView.entries, tokens, Grammar.tokens, lexemesOf, List.map_map]
  rfl

private theorem map_problem_diagnosticsOf (source : String)
    (found : List (Token × Option Problem)) :
    (Grammar.diagnosticsOf found).map (·.problem) =
      (lexemesOf source found).filterMap (·.2.problem) := by
  rw [Grammar.diagnosticsOf, lexemesOf, List.map_filterMap, List.filterMap_map]
  refine List.filterMap_congr ?_
  intro entry _
  simp only [Option.map_map, Function.comp_def, Option.map_id']

end

/-- The texts of the tokens of a view, put down anew with separators between them. -/
def TokenView.respaced (view : TokenView) (separators : List String) : String :=
  spaced (view.entries.map (·.2)) separators

/-- The texts of the tokens of a source, put down with any separators between them, are scanned
again as tokens of the same kinds and with the same texts, and the same problems are reported in
the same order. -/
theorem lex_ignores_layout {source : String} {result : LexResult}
    (scanned : lex source = .ok result) {separators : List String}
    (count : separators.length = result.tokens.size - 1)
    (apart : ∀ separator ∈ separators, Separates separator)
    (fits : ((result.view source).respaced separators).utf8ByteSize ≤ maxOffset) :
    ∃ other, lex ((result.view source).respaced separators) = .ok other ∧
      (other.view ((result.view source).respaced separators)).entries.map
          (fun entry => (entry.1.kind, entry.2)) =
        (result.view source).entries.map (fun entry => (entry.1.kind, entry.2)) ∧
      other.diagnostics.map (·.problem) = result.diagnostics.map (·.problem) := by
  obtain ⟨_, again, tokens, diagnostics⟩ := lex_follows (fits_of_lex scanned)
  cases scanned.symm.trans again
  have size : result.tokens.size = (Grammar.tokensFrom 0 source.toList).length := by
    rw [TokenBuffer.size, ← Array.length_toList, tokens, Grammar.tokens, List.length_map]
  have texts := map_entries_view tokens fun _ text => text
  have same := lexemesOf_spaced source apart (size ▸ count)
  rw [TokenView.respaced, texts] at fits ⊢
  obtain ⟨other, relaidScanned, otherTokens, otherDiagnostics⟩ := lex_follows fits
  refine ⟨other, relaidScanned, ?_, ?_⟩
  · rw [map_entries_view otherTokens Prod.mk, map_entries_view tokens Prod.mk]
    exact congrArg _ same
  · rw [otherDiagnostics, diagnostics, Grammar.diagnostics, Grammar.diagnostics,
      map_problem_diagnosticsOf, map_problem_diagnosticsOf source]
    exact congrArg _ same

/-- Tokens that touch each other, a date that is none, and a string that is cut off, moved apart by
comments with a quote, a date mark and a wide character in them. -/
theorem lex_ignores_layout_touching :
    let source := "1a<>#9#\"x\"\"y"
    let separators := [" ", "\n", "\t'\"#\n", "\r\n'\u00e9\n\n"]
    let relaid := "1 a\n<>\t'\"#\n#9#\r\n'\u00e9\n\n\"x\"\"y"
    ∃ result other, lex source = .ok result ∧
      separators.length = result.tokens.size - 1 ∧
      (∀ separator ∈ separators, Separates separator) ∧
      (result.view source).respaced separators = relaid ∧
      lex relaid = .ok other ∧
      (other.view relaid).entries.map (fun entry => (entry.1.kind, entry.2)) =
        (result.view source).entries.map (fun entry => (entry.1.kind, entry.2)) ∧
      other.diagnostics.map (·.problem) = result.diagnostics.map (·.problem) := by
  intro source separators relaid
  have fits : source.utf8ByteSize ≤ maxOffset := by decide +kernel
  have apart : ∀ separator ∈ separators, Separates separator := by
    refine List.forall_mem_cons.mpr ⟨?_, List.forall_mem_cons.mpr ⟨?_, List.forall_mem_cons.mpr
      ⟨?_, List.forall_mem_cons.mpr ⟨?_, List.forall_mem_nil _⟩⟩⟩⟩
    · exact ⟨⟨' ', by decide, rfl⟩, .blank (by decide) .empty⟩
    · exact ⟨⟨'\n', by decide, rfl⟩, .blank (by decide) .empty⟩
    · refine ⟨⟨'\t', by decide, rfl⟩, .blank (by decide) ?_⟩
      exact .comment (by decide : '\n' ∉ ['"', '#']) .empty
    · refine ⟨⟨'\r', by decide, rfl⟩, .blank (by decide) (.blank (by decide) ?_)⟩
      exact .comment (by decide : '\n' ∉ ['\u00e9']) (.blank (by decide) .empty)
  obtain ⟨result, scanned, tokens, diagnostics⟩ := lex_follows fits
  have count : separators.length = result.tokens.size - 1 := by
    rw [TokenBuffer.size, ← Array.length_toList, tokens]
    decide +kernel
  have relaidEq : (result.view source).respaced separators = relaid := by
    rw [TokenView.respaced, map_entries_view tokens fun _ text => text]
    decide +kernel
  have small : ((result.view source).respaced separators).utf8ByteSize ≤ maxOffset := by
    rw [relaidEq]
    decide +kernel
  obtain ⟨other, again, same⟩ := lex_ignores_layout scanned count apart small
  rw [relaidEq] at again same
  exact ⟨result, other, scanned, count, apart, relaidEq, again, same⟩

end FormulaLexer
