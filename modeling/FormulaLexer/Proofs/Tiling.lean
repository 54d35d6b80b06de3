import FormulaLexer.Decode
import FormulaLexer.Proofs.Region
import FormulaLexer.Proofs.Scanning

/-!
# Tokens tile their source

The tokens of a source cover it without overlaps. What lies between them is blanks and
comments only, so the source is put together again from the texts of the tokens and the
texts of the gaps.
-/

set_option autoImplicit false

namespace FormulaLexer

open Grammar (byteLength)

/-! ## Gaps -/

/-- The characters that may stand between tokens: blanks, and comments that a line feed
ends. Behind the last token, a comment may also run to the end of the text. -/
inductive Gap (last : Bool) : List Char → Prop where
  | empty : Gap last []
  | blank {char : Char} {rest : List Char} :
      char ∈ [' ', '\t', '\r', '\n'] → Gap last rest → Gap last (char :: rest)
  | comment {body rest : List Char} :
      '\n' ∉ body → Gap last rest → Gap last ('\x27' :: body ++ '\n' :: rest)
  | openComment {body : List Char} :
      last = true → '\n' ∉ body → Gap last ('\x27' :: body)

private theorem Gap.behind_lineFeed {last : Bool} {rest : List Char}
    (gap : Gap last ('\n' :: rest)) :
    Gap last rest := by
  cases gap with
  | blank _ inner => exact inner

/-- The trivia in front of a token is a gap, and so is the trivia at the end of a text. -/
theorem gap_of_splitTrivia {ahead skipped rest : List Char}
    (split : Grammar.splitTrivia ahead = (skipped, rest)) : Gap rest.isEmpty skipped := by
  fun_induction Grammar.splitTrivia ahead generalizing skipped with
  | case1 =>
      cases split
      exact .empty
  | case2 char tail blank inner after found ih =>
      cases split
      exact .blank (List.contains_iff_mem.mp blank) (ih found)
  | case3 tail inner after found _ ih =>
      cases split
      rcases search_cases '\n' tail with
        ⟨absent, body, left⟩ | ⟨comment, following, absent, rfl, body, left⟩
      · rw [left, Grammar.splitTrivia] at found
        cases found
        rw [body, List.append_nil]
        exact .openComment rfl absent
      · have gap := ih found
        rw [left, Grammar.splitTrivia, if_pos (by decide)] at found
        cases found
        rw [body]
        exact .comment absent gap.behind_lineFeed
  | case4 =>
      cases split
      exact .empty

/-! ## Tilings -/

/-- The text between two offsets, empty when they are no region of the source. -/
def textBetween (source : String) (start stop : Nat) : String :=
  (region? source start stop).getD ""

/-- A token that covers some characters of a source. -/
structure Token.Covers (source : String) (token : Token) : Prop where
  nonempty : token.start < token.stop
  inside : token.stop ≤ source.utf8ByteSize
  boundaries : String.Pos.Raw.IsValid source ⟨token.start⟩ ∧
    String.Pos.Raw.IsValid source ⟨token.stop⟩
  proper : token.kind ≠ .endOfInput

/-- `Tiles source offset tokens`: from `offset` on, the source is the tokens in their order
with gaps in front of each and behind the last. -/
inductive Tiles (source : String) : Nat → List Token → Prop where
  | done {offset : Nat} :
      offset ≤ source.utf8ByteSize →
      Gap true (textBetween source offset source.utf8ByteSize).toList →
      Tiles source offset []
  | step {offset : Nat} {token : Token} {tokens : List Token} :
      offset ≤ token.start →
      Gap false (textBetween source offset token.start).toList →
      token.Covers source →
      Tiles source token.stop tokens →
      Tiles source offset (token :: tokens)

/-- The texts of the gaps and of the tokens from an offset on, put together. -/
def reassemble (source : String) : Nat → List (Token × String) → String
  | offset, [] => textBetween source offset source.utf8ByteSize
  | offset, (token, text) :: rest =>
    textBetween source offset token.start ++ text ++ reassemble source token.stop rest

section

variable {source : String} {behind ahead : List Char} {found : List (Token × Option Problem)}

private theorem textBetween_between {before middle later : List Char}
    (whole : source.toList = before ++ middle ++ later) :
    textBetween source (byteLength before) (byteLength (before ++ middle)) =
      String.ofList middle := by
  rw [textBetween, region?_between whole]
  rfl

private theorem utf8ByteSize_eq (whole : source.toList = behind ++ ahead) :
    source.utf8ByteSize = byteLength (behind ++ ahead) := by
  rw [← byteLength_toList, whole]

private theorem textBetween_end (whole : source.toList = behind ++ ahead) :
    textBetween source (byteLength behind) source.utf8ByteSize = String.ofList ahead := by
  rw [utf8ByteSize_eq whole]
  exact textBetween_between (whole.trans (List.append_nil _).symm)

private theorem covers_of_cut {first : Char} {rest : List Char}
    (whole : source.toList = behind ++ first :: rest) :
    ((Grammar.cut first rest).token (byteLength behind)).Covers source := by
  obtain ⟨parts, nonempty⟩ := Grammar.taken_append_rest first rest
  rw [← parts] at whole
  have middle := whole.trans (List.append_assoc _ _ _).symm
  have stop : ((Grammar.cut first rest).token (byteLength behind)).stop =
      byteLength (behind ++ (Grammar.cut first rest).taken) := (byteLength_append _ _).symm
  refine ⟨?_, ?_, ⟨isValid_byteLength whole, ?_⟩, Grammar.kind_ne_endOfInput first rest⟩
  · exact Nat.lt_add_of_pos_right (byteLength_pos nonempty)
  · rw [stop, utf8ByteSize_eq middle, byteLength_append _ (Grammar.cut first rest).rest]
    exact Nat.le_add_right _ _
  · rw [stop]
    exact isValid_byteLength middle

/-- A derivation of a text that ends a source lists tokens that tile the source. -/
theorem tiles_of_reads (derivation : Grammar.Reads behind ahead found)
    (whole : source.toList = behind ++ ahead) :
    Tiles source (byteLength behind) (found.map (·.1)) := by
  induction derivation with
  | @done behind ahead skipped split =>
      have gap := gap_of_splitTrivia split
      have everything := Grammar.append_of_splitTrivia split
      rw [List.append_nil] at everything
      refine .done ?_ ?_
      · rw [utf8ByteSize_eq whole, byteLength_append]
        exact Nat.le_add_right _ _
      · rw [textBetween_end whole, String.toList_ofList, ← everything]
        exact gap
  | @step behind ahead skipped rest first found split _ ih =>
      obtain ⟨front, onward⟩ := Grammar.append_of_step behind split
      have start := whole.trans front.symm
      refine .step ?_ ?_ (covers_of_cut start) ?_
      · exact (byteLength_append behind skipped).symm ▸ Nat.le_add_right _ _
      · rw [Grammar.Cut.token, textBetween_between start, String.toList_ofList]
        exact gap_of_splitTrivia split
      · rw [Grammar.Cut.token, ← byteLength_append]
        exact ih (whole.trans onward.symm)

/-- The tokens of a derivation and the gaps between them make up the text that was read. -/
theorem reassemble_of_reads (derivation : Grammar.Reads behind ahead found)
    (whole : source.toList = behind ++ ahead) :
    reassemble source (byteLength behind)
      ((found.map (·.1)).map fun token => (token, token.text source)) = String.ofList ahead := by
  induction derivation with
  | done split => exact textBetween_end whole
  | @step behind ahead skipped rest first found split _ ih =>
      obtain ⟨front, onward⟩ := Grammar.append_of_step behind split
      have start := whole.trans front.symm
      have later := ih (whole.trans onward.symm)
      simp only [List.map_cons, reassemble, text_of_cut start]
      rw [Grammar.Cut.token, textBetween_between start, ← byteLength_append, later,
        ← String.ofList_append, ← String.ofList_append]
      rw [← Grammar.append_of_splitTrivia split, ← (Grammar.taken_append_rest first rest).1,
        List.append_assoc]

end

/-- The tokens of a source that fits tile it, and together with the gaps between them they
give back the source. -/
theorem tokenize_tiles_source {source : String} (fits : source.utf8ByteSize ≤ maxOffset) :
    ∃ buffer, tokenize source = .ok buffer ∧
      Tiles source 0 buffer.tokens.toList ∧
      reassemble source 0 (TokenView.entries ⟨source, buffer⟩) = source := by
  obtain ⟨result, scanned, tokens, _⟩ := lex_follows fits
  have derivation := Grammar.reads_tokensFrom [] source.toList
  refine ⟨result.tokens, congrArg (·.map (·.tokens)) scanned, ?_, ?_⟩
  · rw [tokens]
    exact tiles_of_reads derivation rfl
  · rw [TokenView.entries, tokens]
    exact (reassemble_of_reads derivation rfl).trans String.ofList_toList

/-- A comment that a line feed ends, a wide character next to a mark, a date that is none,
a string with a quote in it, and a comment that runs to the end. -/
theorem tokenize_tiles_source_commented :
    let source := "'\u00e9\r\n\t\u00b5\u00b2[#\u00e9#\"a\"\"b\" 'x"
    source.utf8ByteSize ≤ maxOffset ∧
      ∃ buffer, tokenize source = .ok buffer ∧
        Tiles source 0 buffer.tokens.toList ∧
        reassemble source 0 (TokenView.entries ⟨source, buffer⟩) = source := by
  intro source
  have fits : source.utf8ByteSize ≤ maxOffset := by decide +kernel
  exact ⟨fits, tokenize_tiles_source fits⟩

end FormulaLexer
