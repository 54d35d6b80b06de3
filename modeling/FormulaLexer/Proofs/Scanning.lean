import FormulaLexer.Proofs.OffsetDates

/-!
# Scanning follows the grammar

A scanner between two characters produces the lexeme that the grammar cuts from the text
ahead, records the problem of that lexeme at the place of its token, and stands behind it
afterwards. A whole run therefore stores the tokens of the grammar and keeps its diagnostics.
-/

set_option autoImplicit false

namespace FormulaLexer

open Grammar (byteLength)

/-- The diagnostics after a lexeme that covers a span. -/
def noted (diagnostics : Array Diagnostic) (span : Span) : Option Problem → Array Diagnostic
  | none => diagnostics
  | some problem => diagnostics.push ⟨span, problem⟩

namespace Scanner

variable {buffer : SourceBuffer} {behind ahead rest : List Char} {first : Char}
  {diagnostics : Array Diagnostic}

/-- The scanner behind a lexeme that was cut from the text behind `behind`. -/
def pass (behind : List Char) (diagnostics : Array Diagnostic) (piece : Grammar.Cut) :
    Scanner buffer :=
  ⟨.after (behind ++ piece.taken),
    noted diagnostics (piece.token (byteLength behind)).span piece.lexeme.problem⟩

private theorem finish_sound (scanner : Scanner buffer) (behind taken rest : List Char)
    (kind : TokenKind) :
    (scanner.moveTo (.after (behind ++ taken))).finish (byteLength behind) kind =
      (Grammar.Cut.token ⟨.sound kind, taken, rest⟩ (byteLength behind),
        pass behind scanner.diagnostics ⟨.sound kind, taken, rest⟩) := by
  simp [finish, moveTo, pass, noted, Grammar.Cut.token, Lexeme.sound, Cursor.after]

private theorem finish_report (scanner : Scanner buffer) (behind taken rest : List Char)
    (kind : TokenKind) (problem : Problem) :
    ((scanner.moveTo (.after (behind ++ taken))).report (byteLength behind) problem).finish
        (byteLength behind) kind =
      (Grammar.Cut.token ⟨⟨kind, some problem⟩, taken, rest⟩ (byteLength behind),
        pass behind scanner.diagnostics ⟨⟨kind, some problem⟩, taken, rest⟩) := by
  simp [finish, report, moveTo, pass, noted, Grammar.Cut.token, Cursor.after, Token.span]

/-! ## One lexeme -/

private theorem string_after (holds : buffer.Holds (behind ++ '"' :: rest)) :
    (⟨.after behind, diagnostics⟩ : Scanner buffer).string (byteLength behind) =
      .ok ((Grammar.stringCut rest).token (byteLength behind),
        pass behind diagnostics (Grammar.stringCut rest)) := by
  have opened := Cursor.advance_after holds (by decide)
  have closing := Cursor.closeQuote_after holds.passChar
  rw [string, Grammar.stringCut]
  simp only [opened, bind, Except.bind]
  rw [closing]
  cases Text.Quoted.body? rest with
  | none =>
      rw [List.append_assoc]
      exact congrArg Except.ok (finish_report _ behind ('"' :: rest) [] _ _)
  | some read =>
      obtain ⟨body, after⟩ := read
      simp only [List.append_assoc]
      exact congrArg Except.ok (finish_sound _ behind ('"' :: body ++ ['"']) after _)

private theorem date_after (holds : buffer.Holds (behind ++ '#' :: rest)) :
    (⟨.after behind, diagnostics⟩ : Scanner buffer).date (byteLength behind) =
      .ok ((Grammar.dateCut rest).token (byteLength behind),
        pass behind diagnostics (Grammar.dateCut rest)) := by
  have opened := Cursor.advance_after holds (by decide)
  have searched : (Cursor.after (behind ++ ['#']) : Cursor buffer).skipTo Cursor.dateMarkByte = _ :=
    Cursor.skipTo_after (by decide) holds.passChar
  rw [date, Grammar.dateCut]
  simp only [opened, bind, Except.bind]
  rw [searched]
  rcases search_cases '#' rest with
    ⟨absent, taken, left⟩ | ⟨inside, after, _, rfl, taken, left⟩
  · have missing : rest.contains '#' = false := by simpa using absent
    rw [missing, taken, left, List.append_assoc]
    exact congrArg Except.ok (finish_report _ behind ('#' :: rest) [] _ _)
  · have present : (inside ++ '#' :: after).contains '#' = true := by simp
    rw [present, taken, left]
    have reached : buffer.Holds (behind ++ ['#'] ++ inside ++ '#' :: after) :=
      holds.passChar.pass rfl
    have closed := Cursor.advance_after reached (by decide)
    have text : (Cursor.after (behind ++ ['#'] ++ inside) : Cursor buffer).sliceFrom
        (Cursor.after (behind ++ ['#']) : Cursor buffer).position = _ :=
      Cursor.slice_after reached
    have valid : (Date.ofText? (String.ofList inside)).isSome = Grammar.isDate inside :=
      Date.isDateText_ofList inside
    simp only [↓reduceIte]
    rw [text]
    simp only [closed, Offsets.dateOfText_eq, valid]
    simp only [List.append_assoc]
    cases Grammar.isDate inside with
    | true => exact congrArg Except.ok (finish_sound _ behind ('#' :: inside ++ ['#']) after _)
    | false =>
        exact congrArg Except.ok (finish_report _ behind ('#' :: inside ++ ['#']) after _ _)

private theorem ascii_of_isNumberChar (char : Char) (numeric : Grammar.isNumberChar char = true) :
    char.toNat < 128 := by
  simp only [Grammar.isNumberChar, Bool.or_eq_true, beq_iff_eq, Char.isDigit_iff_toNat] at numeric
  rcases numeric with ⟨_, small⟩ | rfl
  · exact Nat.lt_of_le_of_lt small (by decide)
  · decide

private theorem number_after (holds : buffer.Holds (behind ++ first :: rest))
    (digit : first.isDigit = true) :
    (⟨.after behind, diagnostics⟩ : Scanner buffer).number (byteLength behind) =
      let piece := Grammar.runCut (fun _ => .sound .number) Grammar.isNumberChar first rest
      .ok (piece.token (byteLength behind), pass behind diagnostics piece) := by
  have numeric : Grammar.isNumberChar first = true := by simp [Grammar.isNumberChar, digit]
  have eaten : (Cursor.after behind : Cursor buffer).eatWhile Cursor.isNumberByte =
      .ok (.after (behind ++ (first :: rest).takeWhile Grammar.isNumberChar)) :=
    Cursor.eatWhile_after ascii_of_isNumberChar rfl holds
  rw [List.takeWhile_cons_of_pos numeric] at eaten
  rw [number]
  simp only [eaten, bind, Except.bind]
  exact congrArg Except.ok (finish_sound _ behind _ _ _)

/-- The byte behind a mark shows whether the two make a pair: a wider character never
follows in a pair. -/
theorem bind_paired?_leadByte {mark : Mark} (found : Mark.ofChar? first = some mark)
    (second : Char) : (asciiChar? (leadByte second)).bind mark.paired? = mark.paired? second := by
  rw [asciiChar?_leadByte]
  split
  · rfl
  · next wide =>
      have apart : second ∉ Mark.followers :=
        fun follows => wide (Mark.ascii_of_mem_followers follows)
      rw [Mark.paired?_eq_none found apart]
      rfl

private theorem mark_after (holds : buffer.Holds (behind ++ first :: rest)) {mark : Mark}
    (found : Mark.ofChar? first = some mark) :
    (⟨.after behind, diagnostics⟩ : Scanner buffer).mark (byteLength behind) mark first.utf8Size =
      .ok ((Grammar.markCut first rest).token (byteLength behind),
        pass behind diagnostics (Grammar.markCut first rest)) := by
  have moved : (Cursor.after behind : Cursor buffer).advanceBy first.utf8Size =
      .ok (.after (behind ++ [first])) := by
    simpa using Cursor.advanceBy_after holds.passChar
  rw [Scanner.mark]
  simp only [moved, bind, Except.bind]
  cases rest with
  | nil =>
      have read := Cursor.current_after_nil holds.passChar
      have alone : (asciiChar? 0).bind mark.paired? = none :=
        Mark.paired?_eq_none found (by decide)
      simp only [read]
      rw [alone, Mark.alone_eq found]
      exact congrArg Except.ok (finish_sound _ behind [first] [] _)
  | cons second after =>
      have read := Cursor.current_after_cons holds.passChar
      simp only [read]
      rw [bind_paired?_leadByte found, Mark.paired?_eq found, Grammar.markCut]
      cases paired : Grammar.markPairs.contains (first, second) with
      | false =>
          rw [Mark.alone_eq found]
          exact congrArg Except.ok (finish_sound _ behind [first] (second :: after) _)
      | true =>
          have small : second.toNat < 128 :=
            Mark.ascii_of_mem_followers
              (Mark.mem_followers_of_markPairs (List.contains_iff_mem.mp paired))
          have stepped := Cursor.advance_after holds.passChar small
          simp only [↓reduceIte, stepped]
          rw [List.append_assoc]
          exact congrArg Except.ok (finish_sound _ behind [first, second] after _)

private theorem word_after (holds : buffer.Holds (behind ++ first :: rest))
    (joins : Grammar.isWordChar first = true) :
    (⟨.after behind, diagnostics⟩ : Scanner buffer).word (byteLength behind) =
      let piece := Grammar.runCut (fun taken => .sound (Grammar.wordKind taken))
        Grammar.isWordChar first rest
      .ok (piece.token (byteLength behind), pass behind diagnostics piece) := by
  have skipped := Cursor.skipWord_after holds
  rw [List.takeWhile_cons_of_pos joins] at skipped
  have reached : buffer.Holds (behind ++ (first :: rest.takeWhile Grammar.isWordChar) ++
      rest.dropWhile Grammar.isWordChar) := holds.pass (by simp)
  have text : (Cursor.after (behind ++ first :: rest.takeWhile Grammar.isWordChar) :
      Cursor buffer).sliceFrom (byteLength behind) = _ := Cursor.slice_after reached
  rw [word]
  simp only [skipped, bind, Except.bind]
  rw [text]
  simp only [Offsets.wordKind_eq, wordKind_ofList]
  exact congrArg Except.ok (finish_sound _ behind _ _ _)

/-- The token under the cursor is the one that the grammar cuts. -/
theorem token_after (holds : buffer.Holds (behind ++ first :: rest))
    (solid : isBlank first = false) :
    (⟨.after behind, diagnostics⟩ : Scanner buffer).token =
      .ok ((Grammar.cut first rest).token (byteLength behind),
        pass behind diagnostics (Grammar.cut first rest)) := by
  have read := Cursor.current_after_cons holds
  have quote : leadByte first = Cursor.quoteByte ↔ first = '"' :=
    Cursor.leadByte_eq_toUInt8_iff (by decide)
  have dateMark : leadByte first = Cursor.dateMarkByte ↔ first = '#' :=
    Cursor.leadByte_eq_toUInt8_iff (by decide)
  rw [token, Grammar.cut]
  simp only [read, bind, Except.bind, quote, dateMark]
  split
  · next isQuote =>
      subst isQuote
      exact string_after holds
  split
  · next isMark =>
      subst isMark
      exact date_after holds
  have digit : (asciiChar? (leadByte first)).any Char.isDigit = first.isDigit := by
    rw [asciiChar?_leadByte]
    split
    · rfl
    · next wide =>
        cases digit : first.isDigit with
        | false => rfl
        | true =>
            exact absurd (ascii_of_isNumberChar first (by simp [Grammar.isNumberChar, digit])) wide
  rw [digit]
  split
  · next digit => exact number_after holds digit
  rw [Cursor.mark?_after_cons holds, ← isSome_ofChar?_eq]
  cases found : Mark.ofChar? first with
  | some mark => exact mark_after holds found
  | none =>
      refine word_after holds ?_
      rw [isWordChar_eq, isSeparator_eq, solid, found]
      rfl

end Scanner

/-! ## Runs -/

namespace Scanner

variable {buffer : SourceBuffer} {behind ahead skipped rest : List Char} {first : Char}
  {diagnostics : Array Diagnostic}

theorem next_done (holds : buffer.Holds (behind ++ ahead))
    (split : Grammar.splitTrivia ahead = (skipped, [])) :
    (⟨.after behind, diagnostics⟩ : Scanner buffer).next =
      .ok (none, ⟨.after (behind ++ ahead), diagnostics⟩) := by
  have whole := Grammar.append_of_splitTrivia split
  rw [List.append_nil] at whole
  have trivia := Cursor.skipTrivia_after holds
  rw [split, whole] at trivia
  have reached : buffer.Holds (behind ++ ahead ++ []) := holds.pass (List.append_nil ahead)
  have ended : (Cursor.after (behind ++ ahead) : Cursor buffer).atEnd = true :=
    Cursor.atEnd_after reached
  rw [next]
  simp only [trivia, bind, Except.bind, ended, ↓reduceIte]
  rfl

theorem next_step (holds : buffer.Holds (behind ++ ahead))
    (split : Grammar.splitTrivia ahead = (skipped, first :: rest)) :
    (⟨.after behind, diagnostics⟩ : Scanner buffer).next =
      .ok (some ((Grammar.cut first rest).token (byteLength (behind ++ skipped))),
        pass (behind ++ skipped) diagnostics (Grammar.cut first rest)) := by
  have whole := Grammar.append_of_splitTrivia split
  have trivia := Cursor.skipTrivia_after holds
  rw [split] at trivia
  have reached : buffer.Holds (behind ++ skipped ++ first :: rest) := holds.pass whole
  have inside : (Cursor.after (behind ++ skipped) : Cursor buffer).atEnd = false :=
    Cursor.atEnd_after reached
  have solid := (Grammar.first_of_splitTrivia split).1
  rw [next]
  simp only [trivia, bind, Except.bind, inside, Bool.false_eq_true, ↓reduceIte, moveTo,
    token_after reached solid]
  rfl

private theorem noted_append (token : Token) (problem : Option Problem)
    (found : List (Token × Option Problem)) :
    noted diagnostics token.span problem ++ (Grammar.diagnosticsOf found).toArray =
      diagnostics ++ (Grammar.diagnosticsOf ((token, problem) :: found)).toArray := by
  cases problem with
  | none => rfl
  | some problem => simp [noted, Grammar.diagnosticsOf]

/-- A run stores the tokens that the grammar reads ahead, and keeps their diagnostics. -/
theorem run_after {found : List (Token × Option Problem)}
    (derivation : Grammar.Reads behind ahead found) (holds : buffer.Holds (behind ++ ahead))
    (tokens : TokenBuffer) :
    (⟨.after behind, diagnostics⟩ : Scanner buffer).run tokens =
      .ok ⟨.after (behind ++ ahead), diagnostics ++ (Grammar.diagnosticsOf found).toArray⟩
        ((found.map (·.1)).foldl TokenBuffer.store tokens) := by
  induction derivation generalizing diagnostics tokens with
  | done split =>
      rw [run_done (next_done holds split)]
      simp [Grammar.diagnosticsOf, pure, EStateM.pure]
  | @step behind ahead skipped rest first found split _ ih =>
      have ends := (Grammar.append_of_step behind split).2
      rw [run_step (next_step holds split), TokenBuffer.push_bind (Nat.le_add_right _ _), pass,
        ih (ends ▸ holds), noted_append, ends]
      rfl

end Scanner

/-! ## Whole sources -/

/-- Scanning a source that fits gives the tokens and the diagnostics of the grammar. -/
theorem scanInto_eq {source : String} (fits : source.utf8ByteSize ≤ maxOffset)
    (tokens : TokenBuffer) :
    scanInto source tokens =
      .ok (Grammar.diagnostics source)
        ((Grammar.tokens source).foldl TokenBuffer.store tokens) := by
  obtain ⟨buffer, made, holds⟩ := sourceBuffer_eq_ok fits
  have derivation := Grammar.reads_tokensFrom [] source.toList
  have ran : (Scanner.start buffer).run tokens = _ := Scanner.run_after derivation holds tokens
  calc scanInto source tokens
      = ((Scanner.start buffer).run >>= fun last => pure last.diagnostics.toList) tokens := by
        rw [scanInto, made]
        rfl
    _ = .ok (Grammar.diagnostics source)
          ((Grammar.tokens source).foldl TokenBuffer.store tokens) := by
        simp only [bind, EStateM.bind, ran, Array.empty_append, pure, EStateM.pure]
        rfl

/-- The room set aside for a source that fits can always be had. -/
theorem withCapacity_estimatedTokens {source : String}
    (fits : source.utf8ByteSize ≤ maxOffset) :
    TokenBuffer.withCapacity (estimatedTokens source) = .ok ⟨#[], estimatedTokens source⟩ := by
  rw [TokenBuffer.withCapacity, if_pos]
  simp only [estimatedTokens, TokenBuffer.tokenBytes, TokenBuffer.maxStorage, maxOffset] at fits ⊢
  omega

theorem lex_eq {source : String} (fits : source.utf8ByteSize ≤ maxOffset) :
    lex source =
      .ok ⟨(Grammar.tokens source).foldl TokenBuffer.store ⟨#[], estimatedTokens source⟩,
        Grammar.diagnostics source⟩ := by
  rw [lex, withCapacity_estimatedTokens fits]
  simp only [bind, Except.bind, scanInto_eq fits]
  rfl

/-- A source that fits is scanned, and the result holds the tokens and the diagnostics that
the grammar gives the source. -/
theorem lex_follows {source : String} (fits : source.utf8ByteSize ≤ maxOffset) :
    ∃ result, lex source = .ok result ∧
      result.tokens.tokens.toList = Grammar.tokens source ∧
      result.diagnostics = Grammar.diagnostics source := by
  refine ⟨_, lex_eq fits, ?_, rfl⟩
  rw [TokenBuffer.toList_foldl_store]
  rfl

/-- Of a source that is too large nothing is stored: it is refused before the buffer is touched. -/
theorem scanInto_large {source : String} (large : maxOffset < source.utf8ByteSize)
    (tokens : TokenBuffer) :
    scanInto source tokens =
      .error (.oversizedSource (.stopTooLarge source.utf8ByteSize)) tokens := by
  rw [scanInto, sourceBuffer, SourceBuffer.ofText_large large]
  rfl

theorem lex_large {source : String} (large : maxOffset < source.utf8ByteSize) :
    lex source = (TokenBuffer.withCapacity (estimatedTokens source)).bind fun _ =>
      .error (.oversizedSource (.stopTooLarge source.utf8ByteSize)) := by
  rw [lex]
  cases TokenBuffer.withCapacity (estimatedTokens source) with
  | error fault => rfl
  | ok room =>
      simp only [bind, Except.bind, scanInto_large large]
      rfl

/-- Only a source that fits is scanned. -/
theorem fits_of_lex {source : String} {result : LexResult} (scanned : lex source = .ok result) :
    source.utf8ByteSize ≤ maxOffset := by
  by_contra large
  rw [lex_large (Nat.lt_of_not_le large)] at scanned
  obtain ⟨room, _, refused⟩ := bind_eq_ok_iff.mp scanned
  cases refused

/-- What holds of every result that follows the grammar holds of the result of a source, unless
the source is too large to have one. -/
theorem lex_elim {source : String} {property : LexResult → Prop}
    (follows : ∀ result, source.utf8ByteSize ≤ maxOffset →
      result.tokens.tokens.toList = Grammar.tokens source →
      result.diagnostics = Grammar.diagnostics source → property result) :
    match lex source with
    | .ok result => property result
    | .error _ => maxOffset < source.utf8ByteSize := by
  by_cases fits : source.utf8ByteSize ≤ maxOffset
  · obtain ⟨result, scanned, tokens, diagnostics⟩ := lex_follows fits
    rw [scanned]
    exact follows result fits tokens diagnostics
  · cases scanned : lex source with
    | error fault => exact Nat.lt_of_not_le fits
    | ok result => exact absurd (fits_of_lex scanned) fits

theorem tokenize_elim {source : String} {property : TokenBuffer → Prop}
    (follows : ∀ result : LexResult,
      result.tokens.tokens.toList = Grammar.tokens source → property result.tokens) :
    match tokenize source with
    | .ok buffer => property buffer
    | .error _ => maxOffset < source.utf8ByteSize := by
  have scanned : match lex source with
      | .ok result => property result.tokens
      | .error _ => maxOffset < source.utf8ByteSize :=
    lex_elim fun result _ tokens _ => follows result tokens
  rw [tokenize]
  cases found : lex source with
  | error fault =>
      rw [found] at scanned
      exact scanned
  | ok result =>
      rw [found] at scanned
      exact scanned

/-- A token of a result was read from the source, with or without a problem. -/
theorem entry_of_mem {source : String} {result : LexResult} {token : Token}
    (tokens : result.tokens.tokens.toList = Grammar.tokens source)
    (member : token ∈ result.tokens.tokens.toList) :
    ∃ problem, (token, problem) ∈ Grammar.tokensFrom 0 source.toList := by
  rw [tokens] at member
  obtain ⟨⟨_, problem⟩, among, rfl⟩ := List.mem_map.mp member
  exact ⟨problem, among⟩

/-- A source that fits is scanned without a fault, and its tokens are exactly those that the
grammar of characters gives it, with offsets counted in UTF-8 lengths. -/
theorem tokenize_follows_grammar {source : String} (fits : source.utf8ByteSize ≤ maxOffset) :
    ∃ buffer, tokenize source = .ok buffer ∧
      buffer.tokens.toList = Grammar.tokens source := by
  obtain ⟨result, scanned, tokens, _⟩ := lex_follows fits
  exact ⟨result.tokens, congrArg (·.map (·.tokens)) scanned, tokens⟩

/-- A keyword in mixed case, a superscript mark, a zero and an apostrophe inside a word, a
comment, a date with a tab, and a string cut off behind a pair of quotes. -/
theorem tokenize_follows_grammar_mixed :
    let source := "dIM \u00b2[x'y\x001.2.\n'\u00e9\"\n#01/02/2003\t04:05:06#<>\u00b5=>\"a\"\"#"
    source.utf8ByteSize ≤ maxOffset ∧
      ∃ buffer, tokenize source = .ok buffer ∧
        buffer.tokens.toList =
          [⟨0, 3, .keywordDim⟩, ⟨4, 7, .openIndexAlt⟩, ⟨7, 12, .identifier⟩, ⟨12, 13, .dot⟩,
            ⟨13, 15, .number⟩, ⟨21, 42, .date⟩, ⟨42, 44, .operator⟩, ⟨44, 46, .identifier⟩,
            ⟨46, 48, .fatArrow⟩, ⟨48, 53, .string⟩] := by
  intro source
  have fits : source.utf8ByteSize ≤ maxOffset := by decide +kernel
  obtain ⟨buffer, scanned, tokens⟩ := tokenize_follows_grammar fits
  refine ⟨fits, buffer, scanned, ?_⟩
  rw [tokens]
  decide +kernel

end FormulaLexer
