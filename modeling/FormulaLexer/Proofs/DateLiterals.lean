import FormulaLexer.Proofs.Agreement
import FormulaLexer.Proofs.Concatenation

/-!
# Date literals

Between two date marks in a source the scanner and the decoder read the same text, and the scan goes
on behind the second mark.
-/

set_option autoImplicit false

namespace FormulaLexer

/-- A text between two date marks. -/
def dateLiteral (inside : String) : String := "#" ++ inside ++ "#"

private theorem toList_dateLiteral (inside : String) :
    (dateLiteral inside).toList = '#' :: (inside.toList ++ ['#']) := by
  simp [dateLiteral]

private theorem utf8ByteSize_dateLiteral (inside : String) :
    (dateLiteral inside).utf8ByteSize = inside.utf8ByteSize + 2 := by
  have mark : "#".utf8ByteSize = 1 := rfl
  rw [dateLiteral, String.utf8ByteSize_append, String.utf8ByteSize_append, mark]
  omega

private theorem decodeDate_dateLiteral {inside : String} {date : Date}
    (read : Date.ofText? inside = some date) : decodeDate (dateLiteral inside) = .ok date := by
  rw [Date.ofText?] at read
  rw [decodeDate, toList_dateLiteral, ← List.cons_append, dateInside?_closed, Option.bind_some,
    read]

private theorem Grammar.cut_dateLiteral {inside : String} (free : '#' ∉ inside.toList)
    (rest : List Char) :
    cut '#' (inside.toList ++ ['#'] ++ rest) =
      ⟨.closedDate (Date.ofText? inside).isSome, (dateLiteral inside).toList, rest⟩ := by
  have valid : isDate inside.toList = (Date.ofText? inside).isSome := by
    rw [← Date.isDateText_ofList, String.ofList_toList, Date.isDateText]
  obtain ⟨taken, left⟩ := search_append free rest
  rw [List.append_assoc, List.singleton_append, cut, if_neg (by decide), if_pos rfl, dateCut, left,
    taken, valid, toList_dateLiteral]
  rfl

/-- A text without date marks, between two of them and in front of any text, is the first token. It
is a date, and decodes to the date that the text is read as, or an error with a diagnostic of its
own. Behind it stand the tokens and the diagnostics that the rest has alone. -/
theorem lex_reads_dateLiteral {inside rest : String} (free : '#' ∉ inside.toList)
    (fits : (dateLiteral inside ++ rest).utf8ByteSize ≤ maxOffset) :
    let size := inside.utf8ByteSize + 2
    ∃ whole later, lex (dateLiteral inside ++ rest) = .ok whole ∧ lex rest = .ok later ∧
      match Date.ofText? inside with
      | some date =>
          whole.tokens.tokens.toList =
              ⟨0, size, .date⟩ :: later.tokens.tokens.toList.map (·.shift size) ∧
            (whole.view (dateLiteral inside ++ rest)).date 0 = .ok date ∧
            whole.diagnostics = later.diagnostics.map (·.shift size)
      | none =>
          whole.tokens.tokens.toList =
              ⟨0, size, .error⟩ :: later.tokens.tokens.toList.map (·.shift size) ∧
            whole.diagnostics =
              ⟨⟨0, size⟩, .malformedDate⟩ :: later.diagnostics.map (·.shift size) := by
  obtain ⟨whole, later, scanned, restScanned, tokens, diagnostics⟩ :=
    lex_lexeme_front (toList_dateLiteral inside) (by decide) (by decide)
      (Grammar.cut_dateLiteral free rest.toList) fits
  refine ⟨whole, later, scanned, restScanned, ?_⟩
  rw [utf8ByteSize_dateLiteral] at tokens diagnostics
  cases read : Date.ofText? inside with
  | none =>
      rw [read] at tokens diagnostics
      exact ⟨tokens, diagnostics⟩
  | some date =>
      rw [read] at tokens diagnostics
      refine ⟨tokens, ?_, diagnostics⟩
      have held : (whole.view (dateLiteral inside ++ rest)).tokens.get? 0 =
          some ⟨0, (dateLiteral inside).utf8ByteSize, .date⟩ := by
        rw [TokenBuffer.get?, ← Array.getElem?_toList, LexResult.view, tokens,
          utf8ByteSize_dateLiteral]
        rfl
      have text := text_of_front (dateLiteral inside) rest .date
      rw [TokenView.date_eq held rfl]
      exact (congrArg decodeDate text).trans (decodeDate_dateLiteral read)

/-- A date with a vertical tab in front of its time, before a text that begins with another
literal. -/
theorem lex_reads_dateLiteral_clock :
    let inside := "12/31/0099\x0b24:60:07"
    let rest := "#\u00e9'\n\"#x"
    let date : Date := ⟨99, 12, 31, some ⟨24, 60, 7⟩⟩
    ('#' ∉ inside.toList ∧ (dateLiteral inside ++ rest).utf8ByteSize ≤ maxOffset) ∧
    ∃ whole later, lex (dateLiteral inside ++ rest) = .ok whole ∧ lex rest = .ok later ∧
      whole.tokens.tokens.toList =
          ⟨0, 21, .date⟩ :: later.tokens.tokens.toList.map (·.shift 21) ∧
        (whole.view (dateLiteral inside ++ rest)).date 0 = .ok date ∧
        whole.diagnostics = later.diagnostics.map (·.shift 21) := by
  intro inside rest date
  have free : '#' ∉ inside.toList := by decide
  have fits : (dateLiteral inside ++ rest).utf8ByteSize ≤ maxOffset := by decide +kernel
  have read : Date.ofText? inside = some date := by decide +kernel
  obtain ⟨whole, later, scanned, restScanned, literal⟩ := lex_reads_dateLiteral free fits
  rw [read] at literal
  exact ⟨⟨free, fits⟩, whole, later, scanned, restScanned, literal⟩

example :
    (lex "#1/2/3'\n\"##01/02/2003#").toOption.map
        (fun result => (result.tokens.tokens.toList, result.diagnostics)) =
      some ([⟨0, 10, .error⟩, ⟨10, 22, .date⟩], [⟨⟨0, 10⟩, .malformedDate⟩]) := by
  decide +kernel

end FormulaLexer
