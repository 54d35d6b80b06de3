import FormulaLexer.Listing
import FormulaLexer.Proofs.Agreement
import FormulaLexer.Proofs.Legibility

/-!
# Listings read back

A listing has one line for each token and one for each diagnostic, whatever stands in the texts of
the tokens: only the label can bring line feeds of its own. Behind a given label a listing shows all
that the scan found. Two sources with the same listing have the same tokens with the same texts, and
the same diagnostics.
-/

set_option autoImplicit false

namespace FormulaLexer

theorem TokenKind.ofName?_name (kind : TokenKind) : ofName? kind.name = some kind := by
  cases kind <;> decide

theorem TokenKind.name_inj {left right : TokenKind} (same : left.name = right.name) :
    left = right := by
  have read := congrArg ofName? same
  rw [ofName?_name, ofName?_name] at read
  exact Option.some.inj read

private theorem TokenKind.isAlpha_of_mem_name {kind : TokenKind} {char : Char}
    (member : char ∈ kind.name.toList) : char.isAlpha = true := by
  have every : kind.name.toList.all Char.isAlpha = true := by
    cases kind <;> decide
  exact List.all_eq_true.mp every char member

namespace Listing

/-! ## Characters of a listing -/

private theorem toList_triple (token : Token) :
    (triple token).toList =
      ['('] ++ ((Nat.toDigits 10 token.start ++ [',']) ++ ([' '] ++
        ((Nat.toDigits 10 token.stop ++ [',']) ++ ([' '] ++
          (token.kind.name.toList ++ [')']))))) := by
  simp [triple, toString]

/-- The blanks between the triple of a token and its text, at least one of them. -/
def filling (token : Token) : List Char :=
  List.replicate (columnWidth - (triple token).length) ' ' ++ [' ']

private theorem toList_tokenLine (token : Token) (text : String) :
    (tokenLine token text).toList =
      [' ', ' '] ++ ((triple token).toList ++
        (filling token ++ ((Text.escaped text).toList ++ ['\n']))) := by
  simp [tokenLine, padRight, filling]

private theorem toList_diagnosticLine (diagnostic : Diagnostic) :
    (diagnosticLine diagnostic).toList =
      "error: ".toList ++ (diagnostic.problem.message.toList ++ (" at ".toList ++
        ((Nat.toDigits 10 diagnostic.span.start ++ ['.']) ++ (['.'] ++
          (Nat.toDigits 10 diagnostic.span.stop ++ ['\n']))))) := by
  simp [diagnosticLine, Diagnostic.display, Span.display, toString]

private theorem toList_heading (label : String) (count : Nat) :
    (heading label count).toList =
      "Tokens for ".toList ++ label.toList ++ " (".toList ++
        ((Nat.toDigits 10 count ++ [' ']) ++ ("tokens):".toList ++ ['\n'])) := by
  simp [heading, toString]

private theorem toList_ofResult (label source : String) (result : LexResult) :
    (ofResult label source result).toList =
      (heading label (result.view source).size).toList ++
        ((result.view source).entries.flatMap (fun entry => (tokenLine entry.1 entry.2).toList) ++
          result.diagnostics.flatMap fun diagnostic => (diagnosticLine diagnostic).toList) := by
  simp only [ofResult, String.toList_append, String.toList_join, List.flatMap_map,
    List.append_assoc]
  rfl

/-! ## Legible lines -/

private theorem legible_decimal {mark : Char} (apart : ∀ digit < 10, digit.digitChar ≠ mark) :
    Legible fun number => Nat.toDigits 10 number ++ [mark] :=
  legible_toDigits (by decide) (by decide) apart

private theorem legible_triple : Legible fun token => (triple token).toList := by
  have kinds : Legible fun kind : TokenKind => kind.name.toList ++ [')'] := by
    apply Legible.ended
    · intro kind member
      exact absurd (TokenKind.isAlpha_of_mem_name member) (by decide)
    · intro left right same
      exact TokenKind.name_inj (String.toList_injective same)
  have offset : Legible fun number => Nat.toDigits 10 number ++ [','] := legible_decimal (by decide)
  have stops := (offset.andThen fun _ => kinds.behind [' ']).behind [' ']
  have triples := (offset.andThen fun _ => stops).behind ['(']
  have parts : ∀ left right : Token,
      (left.start, left.stop, left.kind) = (right.start, right.stop, right.kind) →
        left = right := by
    rintro ⟨⟩ ⟨⟩ same
    cases same
    rfl
  simpa only [← toList_triple] using triples.comp parts

private theorem legible_tokenLine :
    Legible fun entry : Token × String => (tokenLine entry.1 entry.2).toList := by
  have texts := fun token : Token => (Text.legible_escaped.ahead ['\n']).behind (filling token)
  simpa only [← toList_tokenLine] using (legible_triple.andThen texts).behind [' ', ' ']

private theorem legible_message : Legible fun problem : Problem => problem.message.toList := by
  apply @Legible.of_opening _ _ 14
  · intro problem
    cases problem <;> decide
  · intro left right
    cases left <;> cases right <;> decide

private theorem legible_diagnosticLine :
    Legible fun diagnostic => (diagnosticLine diagnostic).toList := by
  have starts : Legible fun number => Nat.toDigits 10 number ++ ['.'] := legible_decimal (by decide)
  have stops : Legible fun number => Nat.toDigits 10 number ++ ['\n'] := legible_decimal (by decide)
  have spans := (starts.andThen fun _ => stops.behind ['.']).behind " at ".toList
  have diagnostics := (legible_message.andThen fun _ => spans).behind "error: ".toList
  have parts : ∀ left right : Diagnostic,
      (left.problem, left.span.start, left.span.stop) =
        (right.problem, right.span.start, right.span.stop) → left = right := by
    rintro ⟨⟨⟩, _⟩ ⟨⟨⟩, _⟩ same
    cases same
    rfl
  simpa only [← toList_diagnosticLine] using diagnostics.comp parts

/-- Lines of tokens begin with a blank, and lines of diagnostics do not. -/
theorem diagnosticLines_ne_tokenLine (diagnostics : List Diagnostic) (entry : Token × String)
    (onward : List Char) :
    (diagnostics.flatMap fun diagnostic => (diagnosticLine diagnostic).toList) ≠
      (tokenLine entry.1 entry.2).toList ++ onward := by
  rw [toList_tokenLine]
  intro same
  cases diagnostics with
  | nil => cases same
  | cons diagnostic diagnostics =>
      rw [List.flatMap_cons, toList_diagnosticLine] at same
      exact absurd (List.cons.inj same).1 (by decide)

/-- A listing shows the tokens with their texts, and the diagnostics, of the result it was made
from. Nothing is asked of the result: its tokens need not be those of the source. -/
theorem ofResult_inj {label left right : String} {leftResult rightResult : LexResult}
    (same : ofResult label left leftResult = ofResult label right rightResult) :
    (leftResult.view left).entries = (rightResult.view right).entries ∧
      leftResult.diagnostics = rightResult.diagnostics := by
  have chars := congrArg String.toList same
  simp only [toList_ofResult, toList_heading, List.append_assoc] at chars
  have counts : Legible fun number => Nat.toDigits 10 number ++ [' '] := legible_decimal (by decide)
  have behindLabel := List.append_cancel_left (List.append_cancel_left
    (List.append_cancel_left chars))
  simp only [← List.append_assoc (Nat.toDigits 10 _) [' ']] at behindLabel
  have lines := List.append_cancel_left (List.append_cancel_left (counts behindLabel).2)
  obtain ⟨entries, others⟩ := legible_tokenLine.sequence (diagnosticLines_ne_tokenLine _)
    (diagnosticLines_ne_tokenLine _) lines
  have nothing : ∀ (diagnostic : Diagnostic) (onward : List Char),
      [] ≠ (diagnosticLine diagnostic).toList ++ onward := by
    intro diagnostic onward
    rw [toList_diagnosticLine]
    exact (List.cons_ne_nil _ _).symm
  refine ⟨entries, (legible_diagnosticLine.sequence nothing nothing ?_).1⟩
  rw [List.append_nil, List.append_nil]
  exact others

/-! ## Lines -/

/-- The text is one line: a line feed ends it, and there is no other. -/
def IsLine (text : String) : Prop :=
  ∃ chars : List Char, '\n' ∉ chars ∧ text.toList = chars ++ ['\n']

/-- A line without the line feed that ends it. -/
def shown (line : String) : List Char := line.toList.dropLast

private theorem lineFeed_not_mem_toDigits (number : Nat) : '\n' ∉ Nat.toDigits 10 number := by
  intro member
  exact absurd (Nat.isDigit_of_mem_toDigits (by decide) (by decide) member) (by decide)

private theorem lineFeed_not_mem_escaped (text : String) : '\n' ∉ (Text.escaped text).toList := by
  intro member
  simp only [Text.toList_escaped, List.mem_cons, List.mem_append, List.mem_flatMap, Char.reduceEq,
    List.not_mem_nil, or_false, false_or] at member
  obtain ⟨char, _, written⟩ := member
  exact Text.lineFeed_not_mem_escapeChar char written

private theorem lineFeed_not_mem_triple (token : Token) : '\n' ∉ (triple token).toList := by
  have name : '\n' ∉ token.kind.name.toList := by
    intro member
    exact absurd (TokenKind.isAlpha_of_mem_name member) (by decide)
  simp [toList_triple, lineFeed_not_mem_toDigits, name]

private theorem isLine_tokenLine (token : Token) (text : String) :
    IsLine (tokenLine token text) := by
  refine ⟨[' ', ' '] ++ ((triple token).toList ++ (filling token ++ (Text.escaped text).toList)),
    ?_, ?_⟩
  · simp [lineFeed_not_mem_triple, lineFeed_not_mem_escaped, filling]
  · simp only [toList_tokenLine, List.append_assoc]

private theorem isLine_diagnosticLine (diagnostic : Diagnostic) :
    IsLine (diagnosticLine diagnostic) := by
  have message : '\n' ∉ diagnostic.problem.message.toList := by
    cases diagnostic.problem <;> decide
  refine ⟨"error: ".toList ++ (diagnostic.problem.message.toList ++ (" at ".toList ++
    (Nat.toDigits 10 diagnostic.span.start ++ (['.', '.'] ++
      Nat.toDigits 10 diagnostic.span.stop)))), ?_, ?_⟩
  · simp [message, lineFeed_not_mem_toDigits]
  · simp [toList_diagnosticLine]

private theorem heading_ends_line (label : String) (count : Nat) :
    ∃ chars : List Char, (heading label count).toList = chars ++ ['\n'] ∧
      chars.count '\n' = label.toList.count '\n' := by
  refine ⟨"Tokens for ".toList ++ label.toList ++ " (".toList ++ Nat.toDigits 10 count ++
    " tokens):".toList, ?_, ?_⟩
  · simp [toList_heading]
  · simp [List.count_eq_zero.mpr (lineFeed_not_mem_toDigits count)]

private theorem count_lines {lines : List String} (every : ∀ line ∈ lines, IsLine line) :
    (lines.flatMap String.toList).count '\n' = lines.length := by
  induction lines with
  | nil => rfl
  | cons line lines ih =>
      obtain ⟨first, others⟩ := List.forall_mem_cons.mp every
      obtain ⟨chars, free, text⟩ := first
      rw [List.flatMap_cons, List.count_append, ih others, text, List.count_append,
        List.count_eq_zero.mpr free, List.length_cons]
      simp only [List.count_singleton_self]
      omega

private theorem splitOn_lines {lines : List String} (every : ∀ line ∈ lines, IsLine line) :
    (lines.flatMap String.toList).splitOn '\n' = lines.map shown ++ [[]] := by
  induction lines with
  | nil => rfl
  | cons line lines ih =>
      obtain ⟨first, others⟩ := List.forall_mem_cons.mp every
      obtain ⟨chars, free, text⟩ := first
      rw [List.flatMap_cons, text, List.append_assoc, List.singleton_append,
        List.splitOn_append_cons_self_of_not_mem free, ih others, List.map_cons, shown, text,
        List.dropLast_concat]
      rfl

/-- The layout of a listing. Cut at its line feeds it gives the lines of the heading, which are
those of the label, then one line for each token and one for each diagnostic, in order; nothing
stands behind the last line feed. -/
structure Laid (label : String) (view : TokenView) (diagnostics : List Diagnostic)
    (listing : String) : Prop where
  lines : listing.toList.splitOn '\n' =
    (shown (heading label view.size)).splitOn '\n' ++
      view.entries.map (fun entry => shown (tokenLine entry.1 entry.2)) ++
      diagnostics.map (fun diagnostic => shown (diagnosticLine diagnostic)) ++ [[]]
  lineFeeds : listing.toList.count '\n' =
    label.toList.count '\n' + 1 + view.size + diagnostics.length

/-- The lines behind the heading. -/
def body (view : TokenView) (diagnostics : List Diagnostic) : List String :=
  view.entries.map (fun entry => tokenLine entry.1 entry.2) ++ diagnostics.map diagnosticLine

private theorem isLine_of_mem_body {view : TokenView} {diagnostics : List Diagnostic} :
    ∀ line ∈ body view diagnostics, IsLine line := by
  intro line member
  rcases List.mem_append.mp member with ofToken | ofDiagnostic
  · obtain ⟨entry, _, rfl⟩ := List.mem_map.mp ofToken
    exact isLine_tokenLine entry.1 entry.2
  · obtain ⟨diagnostic, _, rfl⟩ := List.mem_map.mp ofDiagnostic
    exact isLine_diagnosticLine diagnostic

theorem laid_ofResult (label source : String) (result : LexResult) :
    Laid label (result.view source) result.diagnostics (ofResult label source result) := by
  obtain ⟨chars, text, feeds⟩ := heading_ends_line label (result.view source).size
  have front : shown (heading label (result.view source).size) = chars := by
    rw [shown, text, List.dropLast_concat]
  have listing : (ofResult label source result).toList =
      chars ++ '\n' :: (body (result.view source) result.diagnostics).flatMap String.toList := by
    rw [toList_ofResult, text, body, List.flatMap_append, List.flatMap_map, List.flatMap_map,
      List.append_assoc, List.singleton_append]
  have size : (body (result.view source) result.diagnostics).length =
      (result.view source).size + result.diagnostics.length := by
    rw [body, List.length_append, List.length_map, List.length_map, TokenView.entries,
      List.length_map, Array.length_toList]
    rfl
  constructor
  · rw [listing, List.splitOn_append_cons_self, splitOn_lines isLine_of_mem_body, front, body]
    simp only [List.map_append, List.map_map, List.append_assoc, Function.comp_def]
  · rw [listing, List.count_append, List.count_cons_self, count_lines isLine_of_mem_body, feeds,
      size]
    omega

theorem result_of_render {label source listing : String}
    (rendered : render label source = .ok listing) :
    ∃ result, lex source = .ok result ∧ ofResult label source result = listing := by
  rw [render] at rendered
  cases scanned : lex source with
  | error fault =>
      rw [scanned] at rendered
      cases rendered
  | ok result =>
      rw [scanned] at rendered
      exact ⟨result, rfl, Except.ok.inj rendered⟩

/-- Every source has a listing, unless it is too large to be scanned, with one line for each token
and one for each diagnostic. No listing belongs, behind one label, to two different scans. -/
theorem render_reads_back (label : String) :
    (∀ source,
      match lex source with
      | .ok result =>
          ∃ listing, render label source = .ok listing ∧
            Laid label (result.view source) result.diagnostics listing
      | .error _ => maxOffset < source.utf8ByteSize) ∧
    ∀ left right listing,
      render label left = .ok listing → render label right = .ok listing →
        ∃ leftResult rightResult, lex left = .ok leftResult ∧ lex right = .ok rightResult ∧
          leftResult.tokens.tokens = rightResult.tokens.tokens ∧
          (leftResult.view left).entries = (rightResult.view right).entries ∧
          leftResult.diagnostics = rightResult.diagnostics := by
  constructor
  · intro source
    cases scanned : lex source with
    | error fault =>
        apply Nat.lt_of_not_le
        intro fits
        obtain ⟨result, found, _⟩ := lex_follows fits
        cases scanned.symm.trans found
    | ok result =>
        refine ⟨ofResult label source result, ?_, laid_ofResult label source result⟩
        rw [render, scanned]
        rfl
  · intro left right listing leftRendered rightRendered
    obtain ⟨leftResult, leftScanned, same⟩ := result_of_render leftRendered
    obtain ⟨rightResult, rightScanned, rfl⟩ := result_of_render rightRendered
    obtain ⟨entries, diagnostics⟩ := ofResult_inj same
    have tokens := congrArg (List.map Prod.fst) entries
    simp only [TokenView.entries, LexResult.view, List.map_map, Function.comp_def, List.map_id']
      at tokens
    exact ⟨leftResult, rightResult, leftScanned, rightScanned, Array.toList_inj.mp tokens, entries,
      diagnostics⟩

/-- Two sources that differ in a blank, with a malformed date and with a string that is cut off and
holds a quote, a backslash, a line feed and a mark that extends it, behind a label of two lines. -/
theorem render_reads_back_blanks :
    let label := "'a\nb'"
    let left := "x\t#1#\"\"\"\\\n\u0301"
    let right := "x #1#\"\"\"\\\n\u0301"
    left ≠ right ∧ left.utf8ByteSize ≤ maxOffset ∧
      ∃ listing leftResult rightResult, render label left = .ok listing ∧
        render label right = .ok listing ∧
        lex left = .ok leftResult ∧ lex right = .ok rightResult ∧
        Laid label (leftResult.view left) leftResult.diagnostics listing ∧
        (leftResult.view left).entries = (rightResult.view right).entries ∧
        leftResult.diagnostics = rightResult.diagnostics := by
  intro label left right
  have fits : left.utf8ByteSize ≤ maxOffset := by decide +kernel
  obtain ⟨laidOut, readsBack⟩ := render_reads_back label
  obtain ⟨result, scanned, _⟩ := lex_follows fits
  have layout := laidOut left
  rw [scanned] at layout
  obtain ⟨listing, rendered, laid⟩ := layout
  have again : render label right = .ok listing := by
    have same : (render label right).toOption = (render label left).toOption := by decide +kernel
    rw [rendered] at same
    cases other : render label right with
    | error fault =>
        rw [other] at same
        cases same
    | ok text =>
        rw [other] at same
        exact congrArg Except.ok (Option.some.inj same)
  obtain ⟨leftResult, rightResult, leftScanned, rightScanned, _, entries, diagnostics⟩ :=
    readsBack left right listing rendered again
  cases scanned.symm.trans leftScanned
  exact ⟨by decide, fits, listing, result, rightResult, rendered, again, scanned, rightScanned,
    laid, entries, diagnostics⟩

end Listing

end FormulaLexer
