import FormulaLexer.Decode
import FormulaLexer.Proofs.Region
import FormulaLexer.Proofs.Scanning

/-!
# Scanner and decoders agree

The scanner looks for the end of a string, and judges the inside of a date, while it moves
over the source; the decoders do so again on the text of the token. Both come to the same
result: what the scanner reports is just what the decoders refuse.
-/

set_option autoImplicit false

namespace FormulaLexer

open Grammar (byteLength)

/-! ## Literals -/

section

variable {body after rest inside : List Char}

/-- The inside of a literal is found again when nothing follows its ending quote. -/
theorem Text.Quoted.body?_closed (found : body? rest = some (body, after)) :
    body? (body ++ ['"']) = some (body, []) := by
  fun_induction body? rest generalizing body with
  | case1 => cases found
  | case2 rest ih =>
      obtain ⟨⟨inner, tail⟩, read, same⟩ := Option.map_eq_some_iff.mp found
      cases same
      simp [body?, ih read]
  | case3 =>
      cases found
      rfl
  | case4 char rest noPair noQuote ih =>
      obtain ⟨⟨inner, tail⟩, read, same⟩ := Option.map_eq_some_iff.mp found
      cases same
      have plain : char ≠ '"' := fun quote => noQuote quote
      simp [body?, plain, ih read]

private theorem decodeString_closed (found : Text.Quoted.body? rest = some (body, after)) :
    ∃ contents, decodeString (String.ofList ('"' :: body ++ ['"'])) = .ok contents := by
  have again := Text.Quoted.body?_closed found
  rw [decodeString, String.toList_ofList, List.cons_append, Text.Quoted.decode?]
  simp only [again]
  exact ⟨_, rfl⟩

private theorem decodeString_unterminated (missing : Text.Quoted.body? rest = none) :
    decodeString (String.ofList ('"' :: rest)) = .error .unterminatedString := by
  rw [decodeString, String.toList_ofList, Text.Quoted.decode?]
  simp only [missing]

theorem dateInside?_closed (inside : List Char) :
    dateInside? ('#' :: inside ++ ['#']) = some inside := by
  rw [List.cons_append, dateInside?, if_pos List.getLast?_concat, List.dropLast_concat]

private theorem decodeDate_closed (valid : Grammar.isDate inside = true) :
    ∃ value, decodeDate (String.ofList ('#' :: inside ++ ['#'])) = .ok value := by
  rw [← Date.isDateText_ofList, Date.isDateText, Date.ofText?, String.toList_ofList] at valid
  obtain ⟨value, read⟩ := Option.isSome_iff_exists.mp valid
  rw [decodeDate, String.toList_ofList, dateInside?_closed, Option.bind_some, read]
  exact ⟨value, rfl⟩

private theorem decodeDate_malformed (invalid : Grammar.isDate inside = false) :
    ∃ failure, decodeDate (String.ofList ('#' :: inside ++ ['#'])) = .error failure := by
  rw [← Date.isDateText_ofList, Date.isDateText, Date.ofText?, String.toList_ofList,
    Option.isSome_eq_false_iff, Option.isNone_iff_eq_none] at invalid
  rw [decodeDate, String.toList_ofList, dateInside?_closed, Option.bind_some, invalid]
  exact ⟨_, rfl⟩

private theorem decodeDate_unterminated (missing : '#' ∉ rest) :
    ∃ failure, decodeDate (String.ofList ('#' :: rest)) = .error failure := by
  have unclosed : rest.getLast? ≠ some '#' := by
    intro last
    exact missing (List.mem_of_getLast? last)
  rw [decodeDate, String.toList_ofList, dateInside?, if_neg unclosed]
  exact ⟨_, rfl⟩

end

/-! ## Lexemes -/

/-- `Confirmed text lexeme`: the decoders come to the same result about a text as a scanner
that finds the lexeme there. -/
inductive Confirmed (text : String) : Lexeme → Prop where
  | string {contents : Text.Quoted.Contents} :
      decodeString text = .ok contents → Confirmed text (.sound .string)
  | unterminatedString :
      decodeString text = .error .unterminatedString → Confirmed text .unterminatedString
  | date {value : Date} :
      decodeDate text = .ok value → Confirmed text (.sound .date)
  | error {problem : Problem} {failure : DecodeError} :
      decodeDate text = .error failure → Confirmed text ⟨.error, some problem⟩
  | plain {kind : TokenKind} :
      kind ∉ Grammar.reservedKinds → Confirmed text (.sound kind)

private theorem confirmed_stringCut (rest : List Char) :
    Confirmed (String.ofList (Grammar.stringCut rest).taken) (Grammar.stringCut rest).lexeme := by
  unfold Grammar.stringCut
  split
  · next body after found =>
      obtain ⟨contents, decoded⟩ := decodeString_closed found
      exact .string decoded
  · next missing => exact .unterminatedString (decodeString_unterminated missing)

private theorem confirmed_dateCut (rest : List Char) :
    Confirmed (String.ofList (Grammar.dateCut rest).taken) (Grammar.dateCut rest).lexeme := by
  rw [Grammar.dateCut]
  rcases search_cases '#' rest with
    ⟨absent, _, left⟩ | ⟨inside, after, _, rfl, taken, left⟩
  · obtain ⟨failure, refused⟩ := decodeDate_unterminated absent
    rw [left]
    exact .error refused
  · rw [taken, left]
    cases valid : Grammar.isDate inside with
    | true =>
        obtain ⟨value, decoded⟩ := decodeDate_closed valid
        exact .date decoded
    | false =>
        obtain ⟨failure, refused⟩ := decodeDate_malformed valid
        exact .error refused

private theorem confirmed_cut (first : Char) (rest : List Char) :
    Confirmed (String.ofList (Grammar.cut first rest).taken) (Grammar.cut first rest).lexeme := by
  by_cases quote : first = '"'
  · rw [Grammar.cut, if_pos quote]
    exact confirmed_stringCut rest
  by_cases mark : first = '#'
  · rw [Grammar.cut, if_neg quote, if_pos mark]
    exact confirmed_dateCut rest
  · obtain ⟨kind, sound, plain⟩ := Grammar.lexeme_of_plain quote mark
    rw [sound]
    exact .plain plain

/-! ## Tokens -/

private theorem diagnosticsOf_eq_nil_iff {found : List (Token × Option Problem)} :
    Grammar.diagnosticsOf found = [] ↔ ∀ entry ∈ found, entry.2 = none := by
  simp [Grammar.diagnosticsOf]

/-! ## Views -/

namespace TokenView

variable {view : TokenView} {index : Nat} {token : Token}

theorem tokenOfKind_eq (held : view.tokens.get? index = some token) :
    view.tokenOfKind token.kind index = .ok token := by
  simp [tokenOfKind, TokenView.token, held, bind, Except.bind, pure, Except.pure]

theorem string_eq (held : view.tokens.get? index = some token) (kind : token.kind = .string) :
    view.string index = decodeString (token.text view.source) := by
  rw [TokenView.string, ← kind, tokenOfKind_eq held]
  rfl

theorem date_eq (held : view.tokens.get? index = some token) (kind : token.kind = .date) :
    view.date index = decodeDate (token.text view.source) := by
  rw [TokenView.date, ← kind, tokenOfKind_eq held]
  rfl

end TokenView

/-- The tokens of a result, to be read from its source. -/
def LexResult.view (result : LexResult) (source : String) : TokenView := ⟨source, result.tokens⟩

/-- What the diagnostics of a result say about its literals is what the decoders find. -/
structure DecodersAgree (source : String) (result : LexResult) : Prop where
  string : ∀ index token, result.tokens.get? index = some token → token.kind = .string →
    ((∃ contents, (result.view source).string index = .ok contents) ↔
      ⟨token.span, .unterminatedString⟩ ∉ result.diagnostics) ∧
    (⟨token.span, .unterminatedString⟩ ∈ result.diagnostics →
      (result.view source).string index = .error .unterminatedString)
  date : ∀ index token, result.tokens.get? index = some token → token.kind = .date →
    ∃ value, (result.view source).date index = .ok value
  error : ∀ index token, result.tokens.get? index = some token → token.kind = .error →
    ∃ failure, decodeDate (token.text source) = .error failure
  clean : result.hasErrors = false ↔
    ∀ index token, result.tokens.get? index = some token →
      token.kind ≠ .error ∧
        (token.kind = .string → ∃ contents, (result.view source).string index = .ok contents)

section

variable {source : String} {result : LexResult} {index : Nat} {token : Token}

theorem mem_of_get? (tokens : result.tokens.tokens.toList = Grammar.tokens source)
    (held : result.tokens.get? index = some token) :
    ∃ problem, (token, problem) ∈ Grammar.tokensFrom 0 source.toList := by
  rw [TokenBuffer.get?, ← Array.getElem?_toList] at held
  exact entry_of_mem tokens (List.mem_of_getElem? held)

private theorem get?_of_mem (tokens : result.tokens.tokens.toList = Grammar.tokens source)
    {problem : Option Problem} (member : (token, problem) ∈ Grammar.tokensFrom 0 source.toList) :
    ∃ index, result.tokens.get? index = some token := by
  have listed : token ∈ Grammar.tokens source := List.mem_map_of_mem member
  obtain ⟨index, held⟩ := List.mem_iff_getElem?.mp listed
  refine ⟨index, ?_⟩
  rw [TokenBuffer.get?, ← Array.getElem?_toList, tokens]
  exact held

private theorem confirmed_of_mem {problem : Option Problem}
    (member : (token, problem) ∈ Grammar.tokensFrom 0 source.toList) :
    Confirmed (token.text source) ⟨token.kind, problem⟩ := by
  obtain ⟨before, first, rest, whole, _, cutHere⟩ := cut_of_mem member
  cases cutHere
  rw [text_of_cut whole]
  exact confirmed_cut first rest

private theorem string_agrees (tokens : result.tokens.tokens.toList = Grammar.tokens source)
    (diagnostics : result.diagnostics = Grammar.diagnostics source)
    (held : result.tokens.get? index = some token) (kind : token.kind = .string) :
    (∃ contents, (result.view source).string index = .ok contents) ∧
        ⟨token.span, .unterminatedString⟩ ∉ result.diagnostics ∨
      (result.view source).string index = .error .unterminatedString ∧
        ⟨token.span, .unterminatedString⟩ ∈ result.diagnostics := by
  obtain ⟨problem, member⟩ := mem_of_get? tokens held
  have reported := Grammar.mem_diagnosticsOf_iff (Grammar.reads_tokensFrom [] source.toList) member
    .unterminatedString
  have confirmed := confirmed_of_mem member
  rw [TokenView.string_eq held kind, diagnostics]
  rw [kind] at confirmed
  cases confirmed with
  | string decoded =>
      refine .inl ⟨⟨_, decoded⟩, ?_⟩
      intro present
      cases reported.mp present
  | unterminatedString refused => exact .inr ⟨refused, reported.mpr rfl⟩
  | plain outside => exact absurd (by decide) outside

private theorem date_agrees (tokens : result.tokens.tokens.toList = Grammar.tokens source)
    (held : result.tokens.get? index = some token) (kind : token.kind = .date) :
    ∃ value, (result.view source).date index = .ok value := by
  obtain ⟨problem, member⟩ := mem_of_get? tokens held
  have confirmed := confirmed_of_mem member
  rw [TokenView.date_eq held kind]
  rw [kind] at confirmed
  cases confirmed with
  | date decoded => exact ⟨_, decoded⟩
  | plain outside => exact absurd (by decide) outside

private theorem error_agrees (tokens : result.tokens.tokens.toList = Grammar.tokens source)
    (held : result.tokens.get? index = some token) (kind : token.kind = .error) :
    ∃ failure, decodeDate (token.text source) = .error failure := by
  obtain ⟨problem, member⟩ := mem_of_get? tokens held
  have confirmed := confirmed_of_mem member
  rw [kind] at confirmed
  cases confirmed with
  | error refused => exact ⟨_, refused⟩
  | plain outside => exact absurd (by decide) outside

/-- A token has no problem just when it is no error and its text decodes where it is a
string. -/
theorem sound_iff {text : String} {kind : TokenKind} {problem : Option Problem}
    (confirmed : Confirmed text ⟨kind, problem⟩) :
    problem = none ↔
      kind ≠ .error ∧ (kind = .string → ∃ contents, decodeString text = .ok contents) := by
  cases confirmed with
  | string decoded => simp [decoded]
  | unterminatedString refused => simp [refused]
  | date => simp
  | error => simp
  | plain outside =>
      simp only [Grammar.reservedKinds, List.mem_cons, not_or] at outside
      simp [outside]

private theorem hasErrors_agrees (tokens : result.tokens.tokens.toList = Grammar.tokens source)
    (diagnostics : result.diagnostics = Grammar.diagnostics source) :
    result.hasErrors = false ↔
      ∀ index token, result.tokens.get? index = some token →
        token.kind ≠ .error ∧
          (token.kind = .string →
            ∃ contents, (result.view source).string index = .ok contents) := by
  rw [LexResult.hasErrors, Bool.not_eq_false', List.isEmpty_iff, diagnostics,
    Grammar.diagnostics, diagnosticsOf_eq_nil_iff]
  constructor
  · intro sound index token held
    obtain ⟨problem, member⟩ := mem_of_get? tokens held
    obtain ⟨noError, decodes⟩ := (sound_iff (confirmed_of_mem member)).mp (sound _ member)
    refine ⟨noError, fun kind => ?_⟩
    rw [TokenView.string_eq held kind]
    exact decodes kind
  · rintro agreed ⟨token, problem⟩ member
    obtain ⟨index, held⟩ := get?_of_mem tokens member
    obtain ⟨noError, decodes⟩ := agreed index token held
    refine (sound_iff (confirmed_of_mem member)).mpr ⟨noError, fun kind => ?_⟩
    have decoded := decodes kind
    rw [TokenView.string_eq held kind] at decoded
    exact decoded

end

/-- A source is scanned unless it is too large, and the decoders agree with the scanner
about every token. -/
theorem lex_agrees_with_decoders (source : String) :
    match lex source with
    | .ok result => DecodersAgree source result
    | .error _ => maxOffset < source.utf8ByteSize := by
  cases scanned : lex source with
  | error fault =>
      by_contra small
      obtain ⟨result, again, _⟩ := lex_follows (Nat.le_of_not_lt small)
      cases scanned.symm.trans again
  | ok result =>
      obtain ⟨_, again, tokens, diagnostics⟩ := lex_follows (fits_of_lex scanned)
      cases scanned.symm.trans again
      refine ⟨?_, fun index token => date_agrees tokens, fun index token => error_agrees tokens,
        hasErrors_agrees tokens diagnostics⟩
      intro index token held kind
      rcases string_agrees tokens diagnostics held kind with ⟨decoded, absent⟩ | ⟨refused, present⟩
      · exact ⟨iff_of_true decoded absent, fun present => absurd present absent⟩
      · refine ⟨iff_of_false ?_ (fun absent => absent present), fun _ => refused⟩
        rintro ⟨contents, decoded⟩
        cases refused.symm.trans decoded

end FormulaLexer
