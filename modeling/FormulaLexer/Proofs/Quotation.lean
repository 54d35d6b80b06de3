import FormulaLexer.Proofs.Agreement
import FormulaLexer.Proofs.Concatenation

/-!
# Written strings

Every text can be written as a string: between quotes, with its own quotes doubled. The quotes pair
up in one way only, whatever stands at the ends of the text, so the scanner finds the end of the
string where it was written and the decoder gives back the text. The decoder takes nothing else for
a string. What follows the string is scanned as if it stood alone, as long as it does not begin with
a quote, which would pair with the last one.
-/

set_option autoImplicit false

namespace FormulaLexer

open Grammar (byteLength)

namespace Text.Quoted

private theorem body?_double {rest : List Char} (apart : rest.head? ≠ some '"')
    (value : List Char) :
    body? (double value ++ '"' :: rest) = some (double value, rest) := by
  induction value with
  | nil =>
      rw [double, List.nil_append, body?.eq_3]
      intro others same
      rw [same] at apart
      exact apart rfl
  | cons char value ih =>
      by_cases quote : char = '"'
      · subst quote
        simp [double, body?, ih]
      · simp [double, quote, body?, ih]

private theorem collapse_double (value : List Char) : collapse (double value) = value := by
  induction value with
  | nil => rfl
  | cons char value ih =>
      by_cases quote : char = '"'
      · subst quote
        simp [double, collapse, ih]
      · simp [double, quote, collapse, ih]

private theorem contains_double (value : List Char) :
    (double value).contains '"' = value.contains '"' := by
  induction value with
  | nil => rfl
  | cons char value ih =>
      by_cases quote : char = '"'
      · subst quote
        simp [double]
      · rw [double, if_neg quote, List.contains_cons, List.contains_cons, ih]

/-- What was written is read back, and stands in the literal as it is unless a quote was doubled. -/
theorem decode?_quote (value : List Char) :
    decode? (quote value) = some ⟨String.ofList value, !value.contains '"'⟩ := by
  have closed : body? (double value ++ ['"']) = some (double value, []) :=
    body?_double (by simp) value
  rw [quote, List.cons_append, decode?]
  simp only [closed, collapse_double, contains_double]

/-- The quotes that the search for the end passes as pairs are the ones that collapse. -/
theorem double_collapse {rest body after : List Char} (found : body? rest = some (body, after)) :
    double (collapse body) = body := by
  fun_induction body? rest generalizing body with
  | case1 => cases found
  | case2 rest ih =>
      obtain ⟨⟨inner, tail⟩, read, same⟩ := Option.map_eq_some_iff.mp found
      cases same
      simp [collapse, double, ih read]
  | case3 =>
      cases found
      rfl
  | case4 char rest noPair noQuote ih =>
      obtain ⟨⟨inner, tail⟩, read, same⟩ := Option.map_eq_some_iff.mp found
      cases same
      have plain : char ≠ '"' := fun quote => noQuote quote
      simp [collapse, double, plain, ih read]

private theorem quote_of_decode? {chars : List Char} {contents : Contents}
    (read : decode? chars = some contents) : chars = quote contents.value.toList := by
  unfold decode? at read
  split at read
  · next rest =>
      split at read
      · next body found =>
          cases read
          have whole := append_of_body? found
          rw [quote, String.toList_ofList, double_collapse found, List.cons_append, whole]
      · cases read
  · cases read

end Text.Quoted

/-- A text written as a string. -/
def quoted (value : String) : String := String.ofList (Text.Quoted.quote value.toList)

private theorem toList_quoted (value : String) :
    (quoted value).toList = Text.Quoted.quote value.toList :=
  String.toList_ofList

theorem decodeString_quoted (value : String) :
    decodeString (quoted value) = .ok ⟨value, !value.toList.contains '"'⟩ := by
  rw [decodeString, toList_quoted, Text.Quoted.decode?_quote, String.ofList_toList]

theorem quoted_inj {left right : String} : quoted left = quoted right ↔ left = right := by
  constructor
  · intro same
    have decoded := congrArg decodeString same
    rw [decodeString_quoted, decodeString_quoted, Except.ok.injEq] at decoded
    exact congrArg Text.Quoted.Contents.value decoded
  · rintro rfl
    rfl

theorem decodeString_cases (raw : String) :
    (∃ value, raw = quoted value) ∨ decodeString raw = .error .unterminatedString := by
  rw [decodeString]
  cases read : Text.Quoted.decode? raw.toList with
  | none => exact .inr rfl
  | some contents =>
      refine .inl ⟨contents.value, ?_⟩
      rw [quoted, ← Text.Quoted.quote_of_decode? read, String.ofList_toList]

theorem decodeString_eq_ok_iff {raw value : String} {verbatim : Bool} :
    decodeString raw = .ok ⟨value, verbatim⟩ ↔
      raw = quoted value ∧ (verbatim = true ↔ '"' ∉ value.toList) := by
  rcases decodeString_cases raw with ⟨written, rfl⟩ | refused
  · rw [decodeString_quoted, Except.ok.injEq, Text.Quoted.Contents.mk.injEq, quoted_inj]
    apply and_congr_right
    rintro rfl
    rw [Bool.eq_iff_iff]
    simp [iff_comm]
  · rw [refused]
    apply iff_of_false
    · simp
    · rintro ⟨rfl, _⟩
      rw [decodeString_quoted] at refused
      cases refused

theorem decodeString_eq_error_iff {raw : String} :
    decodeString raw = .error .unterminatedString ↔ ∀ value, raw ≠ quoted value := by
  rcases decodeString_cases raw with ⟨written, rfl⟩ | refused
  · rw [decodeString_quoted]
    apply iff_of_false
    · simp
    · intro unwritten
      exact unwritten written rfl
  · apply iff_of_true refused
    rintro value rfl
    rw [decodeString_quoted] at refused
    cases refused

/-- Decoding succeeds on a text exactly if it was written from the value, which stands in it as it
is just when it holds no quote. Every other text is refused as a string without an end. Decoding by
offsets gives the same answers and never faults. -/
theorem decodeString_accepts_quoted (raw : String) :
    (∀ value verbatim, decodeString raw = .ok ⟨value, verbatim⟩ ↔
      raw = quoted value ∧ (verbatim = true ↔ '"' ∉ value.toList)) ∧
    (decodeString raw = .error .unterminatedString ↔ ∀ value, raw ≠ quoted value) ∧
    (∀ value verbatim, Offsets.decodeString raw = .ok (.ok ⟨value, verbatim⟩) ↔
      raw = quoted value ∧ (verbatim = true ↔ '"' ∉ value.toList)) ∧
    (Offsets.decodeString raw = .ok (.error .unterminatedString) ↔
      ∀ value, raw ≠ quoted value) := by
  simp only [Offsets.decodeString_eq, Except.ok.injEq]
  exact ⟨fun _ _ => decodeString_eq_ok_iff, decodeString_eq_error_iff,
    fun _ _ => decodeString_eq_ok_iff, decodeString_eq_error_iff⟩

private theorem Grammar.cut_quote {rest : List Char} (apart : rest.head? ≠ some '"')
    (value : List Char) :
    cut '"' (Text.Quoted.double value ++ ['"'] ++ rest) =
      ⟨.sound .string, Text.Quoted.quote value, rest⟩ := by
  rw [List.append_assoc, List.singleton_append, cut, if_pos rfl, stringCut,
    Text.Quoted.body?_double apart]
  rfl

/-- A text written as a string, in front of a text that does not begin with a quote, is the first
token, has no problem, and decodes to the text. Behind it stand the tokens and the diagnostics that
the rest has alone. -/
theorem lex_reads_quoted {value rest : String} (apart : rest.toList.head? ≠ some '"')
    (fits : (quoted value ++ rest).utf8ByteSize ≤ maxOffset) :
    ∃ whole later, lex (quoted value ++ rest) = .ok whole ∧ lex rest = .ok later ∧
      whole.tokens.tokens.toList = ⟨0, (quoted value).utf8ByteSize, .string⟩ ::
        later.tokens.tokens.toList.map (·.shift (quoted value).utf8ByteSize) ∧
      (whole.view (quoted value ++ rest)).string 0 =
        .ok ⟨value, !value.toList.contains '"'⟩ ∧
      whole.diagnostics = later.diagnostics.map (·.shift (quoted value).utf8ByteSize) := by
  have cutHere := Grammar.cut_quote apart value.toList
  rw [← toList_quoted] at cutHere
  obtain ⟨whole, later, scanned, restScanned, tokens, diagnostics⟩ :=
    lex_lexeme_front (toList_quoted value) (by decide) (by decide) cutHere fits
  refine ⟨whole, later, scanned, restScanned, tokens, ?_, diagnostics⟩
  have held : (whole.view (quoted value ++ rest)).tokens.get? 0 =
      some ⟨0, (quoted value).utf8ByteSize, .string⟩ := by
    rw [TokenBuffer.get?, ← Array.getElem?_toList, LexResult.view, tokens]
    rfl
  have text := text_of_front (quoted value) rest .string
  rw [TokenView.string_eq held rfl]
  exact (congrArg decodeString text).trans (decodeString_quoted value)

/-- A text with quotes at both ends and inside, in front of a malformed date. -/
theorem lex_reads_quoted_quotes :
    let value := "\"\u00e9'\"\"\n#\""
    let rest := "#1#"
    (quoted value = "\"\"\"\u00e9'\"\"\"\"\n#\"\"\"" ∧ rest.toList.head? ≠ some '"' ∧
      (quoted value ++ rest).utf8ByteSize ≤ maxOffset) ∧
    ∃ whole later, lex (quoted value ++ rest) = .ok whole ∧ lex rest = .ok later ∧
      whole.tokens.tokens.toList = ⟨0, (quoted value).utf8ByteSize, .string⟩ ::
        later.tokens.tokens.toList.map (·.shift (quoted value).utf8ByteSize) ∧
      (whole.view (quoted value ++ rest)).string 0 =
        .ok ⟨value, !value.toList.contains '"'⟩ ∧
      whole.diagnostics = later.diagnostics.map (·.shift (quoted value).utf8ByteSize) := by
  intro value rest
  have written : quoted value = "\"\"\"\u00e9'\"\"\"\"\n#\"\"\"" := by decide +kernel
  have apart : rest.toList.head? ≠ some '"' := by decide
  have fits : (quoted value ++ rest).utf8ByteSize ≤ maxOffset := by decide +kernel
  exact ⟨⟨written, apart, fits⟩, lex_reads_quoted apart fits⟩

end FormulaLexer
