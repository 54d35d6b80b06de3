import FormulaLexer.Proofs.Agreement
import FormulaLexer.Proofs.Folding

/-!
# Letter case

The case of ASCII letters carries no meaning. Two sources that differ in nothing else have the same
tokens at the same places and the same diagnostics, and their tokens are read as the same values.
Only what is kept as written, in names and strings, keeps its letters, and there it differs in case
at most. Numbers and dates hold no letters at all.
-/

set_option autoImplicit false

namespace FormulaLexer

/-! ## Folded texts -/

namespace Text

/-- The text with its ASCII letters in lower case. -/
def folded (text : String) : String := String.ofList (asciiFold text)

private theorem folded_eq_iff {left right : String} :
    folded left = folded right ↔ equalIgnoringAsciiCase left right = true :=
  String.ofList_inj.trans equalIgnoringAsciiCase_iff.symm

private theorem toList_folded (text : String) :
    (folded text).toList = text.toList.map Char.toLower :=
  String.toList_ofList

private theorem folded_ofList (chars : List Char) :
    folded (String.ofList chars) = String.ofList (chars.map Char.toLower) := by
  rw [folded, asciiFold, String.toList_ofList]

private theorem utf8ByteSize_folded (text : String) :
    (folded text).utf8ByteSize = text.utf8ByteSize := by
  rw [← byteLength_toList, toList_folded, byteLength_folded, byteLength_toList]

private theorem lowercase_toLower (char : Char) : lowercase char.toLower = lowercase char := by
  cases letter : char.isAlpha with
  | true =>
      have lower : char.toLower.isAlpha = true := by rw [isAlpha_toLower, letter]
      rw [lowercase, lowercase, if_pos (toNat_lt_of_isAlpha letter),
        if_pos (toNat_lt_of_isAlpha lower), toLower_toLower]
  | false => rw [toLower_of_uncased letter]

theorem foldCase_folded (text : String) : foldCase (folded text) = foldCase text := by
  rw [foldCase, foldCase, toList_folded, List.flatMap_map]
  simp only [lowercase_toLower]

end Text

/-! ## Names -/

private theorem Scope.ofSigil?_toLower (char : Char) : ofSigil? char.toLower = ofSigil? char := by
  simp (disch := decide) only [ofSigil?, Text.toLower_eq_iff]

namespace Symbol

private theorem splitSigil_folded (chars : List Char) :
    splitSigil (chars.map Char.toLower) =
      ((splitSigil chars).1, (splitSigil chars).2.map Char.toLower) := by
  have scope : (chars.map Char.toLower).getLast?.bind Scope.ofSigil? =
      chars.getLast?.bind Scope.ofSigil? := by
    rw [List.getLast?_map, Option.bind_map]
    simp only [Function.comp_def, Scope.ofSigil?_toLower]
  rw [splitSigil, splitSigil, scope]
  split
  · rw [List.map_dropLast]
  · rfl

private theorem splitPath_folded (body : List Char) :
    splitPath (body.map Char.toLower) =
      ((splitPath body).1.map Char.toLower, (splitPath body).2.map Char.toLower) := by
  have blind : CaseBlind (· != '!') := caseBlind_bne (by decide)
  rw [splitPath, splitPath, takeWhile_folded blind, dropWhile_folded blind]
  cases body.dropWhile (· != '!') with
  | nil => rfl
  | cons mark name => rfl

theorem ofText_folded (text : String) :
    ofText (Text.folded text) =
      ⟨(ofText text).scope, Text.folded (ofText text).path, Text.folded (ofText text).name⟩ := by
  simp only [ofText, Text.toList_folded, splitSigil_folded, splitPath_folded, Text.folded_ofList]

/-- Texts that differ in case only are read as the same symbol. -/
theorem same_of_folded {left right : String} (same : Text.folded left = Text.folded right) :
    (ofText left).equivalent (ofText right) = true ∧
      (ofText left).hashInput = (ofText right).hashInput := by
  have symbols := congrArg ofText same
  rw [ofText_folded, ofText_folded, Symbol.mk.injEq] at symbols
  obtain ⟨scope, path, name⟩ := symbols
  have foldedPath := congrArg Text.foldCase path
  have foldedName := congrArg Text.foldCase name
  rw [Text.foldCase_folded, Text.foldCase_folded] at foldedPath foldedName
  constructor
  · simp [equivalent, scope, foldedPath, foldedName]
  · rw [hashInput, hashInput, scope, foldedPath, foldedName]

end Symbol

/-! ## Operators, separators and strings -/

private theorem Operator.same_of_folded {left right : String}
    (same : Text.folded left = Text.folded right) : ofSpelling left = ofSpelling right := by
  rw [Text.folded, Text.folded, String.ofList_inj] at same
  exact ofSpelling_congr same

private theorem startsWithSeparator_folded (text : String) :
    startsWithSeparator (Text.folded text) = startsWithSeparator text := by
  have blind : ∀ char : Char, isSeparator char.toLower = isSeparator char := by
    intro char
    have words := Grammar.caseBlind_isWordChar char
    rw [isWordChar_eq, isWordChar_eq] at words
    exact Bool.not_inj words
  rw [startsWithSeparator, startsWithSeparator, Text.toList_folded, List.head?_map, Option.any_map]
  simp only [blind]

namespace Text.Quoted

def Contents.folded (contents : Contents) : Contents :=
  ⟨Text.folded contents.value, contents.verbatim⟩

private theorem decode?_folded (chars : List Char) :
    decode? (chars.map Char.toLower) = (decode? chars).map Contents.folded := by
  cases chars with
  | nil => rfl
  | cons char rest =>
      by_cases quote : char = '"'
      · subst quote
        rw [List.map_cons, toLower_of_uncased (by decide), decode?, decode?, body?_folded]
        rcases body? rest with _ | ⟨body, _ | ⟨next, after⟩⟩
        · rfl
        · have doubled := contains_folded (by decide : '"'.isAlpha = false) body
          simp only [Option.map_some, List.map_nil, Contents.folded, folded_ofList, collapse_folded,
            doubled]
        · rfl
      · have plain : char.toLower ≠ '"' := (not_congr (toLower_eq_iff (by decide))).mpr quote
        simp [decode?, quote, plain]

end Text.Quoted

/-! ## Outcomes -/

/-- Two computations fail with the same error, or they return values that are related. -/
inductive Alike {ε α β : Type} (related : α → β → Prop) : Except ε α → Except ε β → Prop where
  | failed (error : ε) : Alike related (.error error) (.error error)
  | returned {left : α} {right : β} : related left right → Alike related (.ok left) (.ok right)

namespace Alike

variable {ε α β : Type}

theorem bind {γ δ : Type} {related : α → β → Prop} {onward : γ → δ → Prop}
    {left : Except ε α} {right : Except ε β} {next : α → Except ε γ} {other : β → Except ε δ}
    (alike : Alike related left right)
    (step : ∀ value partner, related value partner → Alike onward (next value) (other partner)) :
    Alike onward (left >>= next) (right >>= other) := by
  cases alike with
  | failed error => exact .failed error
  | returned values => exact step _ _ values

theorem eq {left right : Except ε α} (alike : Alike Eq left right) : left = right := by
  cases alike with
  | failed => rfl
  | returned same => rw [same]

private theorem of_eq {left right : Except ε α} (same : left = right) : Alike Eq left right := by
  subst same
  cases left with
  | error error => exact .failed error
  | ok value => exact .returned rfl

end Alike

private theorem decodeString_alike {left right : String}
    (same : Text.folded left = Text.folded right) :
    Alike
      (fun contents other => Text.equalIgnoringAsciiCase contents.value other.value = true ∧
        contents.verbatim = other.verbatim)
      (decodeString left) (decodeString right) := by
  have decoded := congrArg (fun text => Text.Quoted.decode? text.toList) same
  simp only [Text.toList_folded, Text.Quoted.decode?_folded] at decoded
  rw [decodeString, decodeString]
  cases here : Text.Quoted.decode? left.toList with
  | none =>
      rw [here, Option.map_none] at decoded
      rw [Option.map_eq_none_iff.mp decoded.symm]
      exact .failed _
  | some contents =>
      rw [here, Option.map_some] at decoded
      obtain ⟨other, there, values⟩ := Option.map_eq_some_iff.mp decoded.symm
      rw [Text.Quoted.Contents.folded, Text.Quoted.Contents.folded,
        Text.Quoted.Contents.mk.injEq] at values
      rw [there]
      exact .returned ⟨Text.folded_eq_iff.mp values.1.symm, values.2.symm⟩

/-! ## Literals without letters -/

namespace Grammar

variable {first : Char} {rest : List Char}

private theorem uncased_of_dateCut (sound : (dateCut rest).lexeme.kind ≠ .error) :
    ∀ char ∈ (dateCut rest).taken, char.isAlpha = false := by
  have mark : '#'.isAlpha = false := by decide
  rw [dateCut] at sound ⊢
  rcases search_cases '#' rest with ⟨_, _, left⟩ | ⟨inside, after, _, rfl, taken, left⟩
  · rw [left] at sound
    exact absurd rfl sound
  · rw [taken, left] at sound ⊢
    cases valid : isDate inside with
    | true =>
        refine List.forall_mem_cons.mpr ⟨mark, List.forall_mem_append.mpr ⟨?_, ?_⟩⟩
        · exact uncased_of_isDate valid
        · exact List.forall_mem_singleton.mpr mark
    | false =>
        rw [valid] at sound
        exact absurd rfl sound

private theorem uncased_of_markCut (mark : marks.contains first = true) :
    ∀ char ∈ (markCut first rest).taken, char.isAlpha = false := by
  have alone : ∀ char ∈ [first], char.isAlpha = false :=
    List.forall_mem_singleton.mpr (uncased_marks first mark)
  unfold markCut
  split
  · next second after =>
      split
      · next pair =>
          have follower := uncased_markPairs first second pair
          exact List.forall_mem_cons.mpr
            ⟨uncased_marks first mark, List.forall_mem_singleton.mpr follower⟩
      · exact alone
  · exact alone

/-- Numbers and dates are written without letters. -/
theorem uncased_of_literal (literal : (cut first rest).lexeme.kind ∈ [TokenKind.number, .date]) :
    ∀ char ∈ (cut first rest).taken, char.isAlpha = false := by
  rcases cut_forms first with ⟨_, form⟩ | ⟨_, form⟩ | ⟨digit, form⟩ | ⟨mark, form⟩ | ⟨_, form⟩
  · have apart : TokenKind.string ∉ [TokenKind.number, .date] := by decide
    rw [form, stringCut] at literal
    split at literal
    · exact absurd literal apart
    · exact absurd literal apart
  · rw [form] at literal ⊢
    refine uncased_of_dateCut ?_
    intro error
    rw [error] at literal
    exact absurd literal (by decide)
  · rw [form]
    refine List.forall_mem_cons.mpr ⟨uncased_isDigit first digit, ?_⟩
    intro char member
    exact uncased_isNumberChar char (List.mem_takeWhile_imp member)
  · rw [form]
    exact uncased_of_markCut mark
  · rw [form] at literal
    have words : ∀ kind ∈ .operator :: .identifier :: keywords.map (·.2),
        kind ∉ [TokenKind.number, .date] := by decide
    exact absurd literal (words _ (wordKind_mem _))

end Grammar

/-! ## Sources -/

section

variable {source left right : String} {token : Token} {problem : Option Problem}

theorem lex_folded (source : String) : lex (Text.folded source) = lex source := by
  have size := Text.utf8ByteSize_folded source
  have room : estimatedTokens (Text.folded source) = estimatedTokens source := by
    rw [estimatedTokens, estimatedTokens, size]
  by_cases fits : source.utf8ByteSize ≤ maxOffset
  · have found : Grammar.tokensFrom 0 (Text.folded source).toList =
        Grammar.tokensFrom 0 source.toList := by
      rw [Text.toList_folded, Grammar.tokensFrom_folded]
    rw [lex_eq fits, lex_eq (size.le.trans fits), room]
    simp only [Grammar.tokens, Grammar.diagnostics, found]
  · have large := Nat.lt_of_not_le fits
    rw [lex_large large, lex_large (size.symm ▸ large), room, size]

private theorem text_folded (member : (token, problem) ∈ Grammar.tokensFrom 0 source.toList) :
    token.text (Text.folded source) = Text.folded (token.text source) := by
  obtain ⟨before, first, rest, whole, _, entry⟩ := cut_of_mem member
  cases entry
  have place : (Text.folded source).toList =
      before.map Char.toLower ++ first.toLower :: rest.map Char.toLower := by
    rw [Text.toList_folded, whole, List.map_append, List.map_cons]
  have text := text_of_cut place
  rw [Text.byteLength_folded, Grammar.cut_folded, Grammar.Cut.token_folded] at text
  rw [text, text_of_cut whole, Text.folded_ofList]
  rfl

private theorem folded_of_literal (member : (token, problem) ∈ Grammar.tokensFrom 0 source.toList)
    (literal : token.kind ∈ [TokenKind.number, .date]) :
    Text.folded (token.text source) = token.text source := by
  obtain ⟨before, first, rest, whole, _, entry⟩ := cut_of_mem member
  cases entry
  rw [text_of_cut whole, Text.folded_ofList,
    Text.map_toLower_of_uncased (Grammar.uncased_of_literal literal)]

/-- A token of two sources has texts in them that differ in case only, and numbers and dates do not
differ at all. -/
structure SharedToken (left right : String) (token other : Token) : Prop where
  same : token = other
  text : Text.folded (token.text left) = Text.folded (other.text right)
  literal : token.kind ∈ [TokenKind.number, .date] → token.text left = other.text right

private theorem shared_of_mem (same : Text.folded left = Text.folded right)
    (member : (token, problem) ∈ Grammar.tokensFrom 0 left.toList) :
    SharedToken left right token token := by
  have found : Grammar.tokensFrom 0 left.toList = Grammar.tokensFrom 0 right.toList := by
    rw [← Grammar.tokensFrom_folded, ← Text.toList_folded, same, Text.toList_folded,
      Grammar.tokensFrom_folded]
  have among : (token, problem) ∈ Grammar.tokensFrom 0 right.toList := found ▸ member
  have text : Text.folded (token.text left) = Text.folded (token.text right) := by
    rw [← text_folded member, same, text_folded among]
  refine ⟨rfl, text, ?_⟩
  intro literal
  rw [← folded_of_literal member literal, text, folded_of_literal among literal]

end

/-! ## Views -/

/-- At an index, two views give values that are the same up to the case of ASCII letters: symbols
that are compared and hashed alike, strings whose contents differ in case only, and otherwise the
same value. Where one view fails, the other fails with the same error. -/
structure TokenView.SameAt (left right : TokenView) (index : Nat) : Prop where
  symbol : Alike
    (fun symbol other => symbol.equivalent other = true ∧ symbol.hashInput = other.hashInput)
    (left.symbol index) (right.symbol index)
  operator : left.operator index = right.operator index
  startsWithSeparator : left.startsWithSeparator index = right.startsWithSeparator index
  date : left.date index = right.date index
  number : left.number index = right.number index
  string : Alike
    (fun contents other => Text.equalIgnoringAsciiCase contents.value other.value = true ∧
      contents.verbatim = other.verbatim)
    (left.string index) (right.string index)

section

variable {left right : String} {result : LexResult}

private theorem token_alike (same : Text.folded left = Text.folded right)
    (tokens : result.tokens.tokens.toList = Grammar.tokens left) (index : Nat) :
    Alike (SharedToken left right) ((result.view left).token index)
      ((result.view right).token index) := by
  simp only [TokenView.token, LexResult.view]
  cases held : result.tokens.get? index with
  | none => exact .failed _
  | some token =>
      obtain ⟨problem, member⟩ := mem_of_get? tokens held
      exact .returned (shared_of_mem same member)

private theorem rawText_alike (same : Text.folded left = Text.folded right)
    (tokens : result.tokens.tokens.toList = Grammar.tokens left) (index : Nat) :
    Alike (fun text other => Text.folded text = Text.folded other)
      ((result.view left).rawText index) ((result.view right).rawText index) := by
  refine (token_alike same tokens index).bind ?_
  intro token other shared
  exact .returned shared.text

private theorem tokenOfKind_alike (same : Text.folded left = Text.folded right)
    (tokens : result.tokens.tokens.toList = Grammar.tokens left) (expected : TokenKind)
    (index : Nat) :
    Alike (fun token other => SharedToken left right token other ∧ token.kind = expected)
      ((result.view left).tokenOfKind expected index)
      ((result.view right).tokenOfKind expected index) := by
  refine (token_alike same tokens index).bind ?_
  intro token other shared
  obtain rfl := shared.same
  split
  · next found => exact .returned ⟨shared, found⟩
  · exact .failed _

private theorem sameAt_of_folded (same : Text.folded left = Text.folded right)
    (tokens : result.tokens.tokens.toList = Grammar.tokens left) (index : Nat) :
    (result.view left).SameAt (result.view right) index where
  symbol := by
    refine (rawText_alike same tokens index).bind ?_
    intro text other folds
    exact .returned (Symbol.same_of_folded folds)
  operator := by
    refine Alike.eq ((rawText_alike same tokens index).bind ?_)
    intro text other folds
    exact .returned (Operator.same_of_folded folds)
  startsWithSeparator := by
    refine Alike.eq ((rawText_alike same tokens index).bind ?_)
    intro text other folds
    refine .returned ?_
    rw [← startsWithSeparator_folded text, folds, startsWithSeparator_folded]
  date := by
    refine Alike.eq ((tokenOfKind_alike same tokens .date index).bind ?_)
    rintro token other ⟨shared, kind⟩
    have text := shared.literal (by rw [kind]; decide)
    exact .of_eq (congrArg decodeDate text)
  number := by
    refine Alike.eq ((tokenOfKind_alike same tokens .number index).bind ?_)
    rintro token other ⟨shared, kind⟩
    have text := shared.literal (by rw [kind]; decide)
    exact .of_eq (congrArg decodeNumber text)
  string := by
    refine (tokenOfKind_alike same tokens .string index).bind ?_
    rintro token other ⟨shared, _⟩
    exact decodeString_alike shared.text

end

/-- Two sources that differ in the case of ASCII letters only are scanned to the same tokens and
the same diagnostics, or are too large alike, and the views of the tokens give the same values at
every index. -/
theorem lex_ignores_letter_case {left right : String}
    (same : Text.equalIgnoringAsciiCase left right = true) :
    lex left = lex right ∧
      (left.utf8ByteSize ≤ maxOffset → ∃ result, lex left = .ok result ∧
        ∀ index, (result.view left).SameAt (result.view right) index) := by
  have folds := Text.folded_eq_iff.mpr same
  constructor
  · rw [← lex_folded, folds, lex_folded]
  · intro fits
    obtain ⟨result, scanned, tokens, _⟩ := lex_follows fits
    exact ⟨result, scanned, sameAt_of_folded folds tokens⟩

/-- A keyword, a name with a path and a sigil, an operator, a string, a date, a number and a
malformed date, in two spellings. -/
theorem lex_ignores_letter_case_spellings :
    let left := "DIM \u00c9T\u00e9!x@ oR \"Aa\"\"\" #01/02/2003# 1.5 #Jan#"
    let right := "dim \u00c9t\u00e9!X@ OR \"aA\"\"\" #01/02/2003# 1.5 #jAN#"
    (Text.equalIgnoringAsciiCase left right = true ∧ left.utf8ByteSize ≤ maxOffset) ∧
      lex left = lex right ∧
      ∃ result, lex left = .ok result ∧
        ∀ index, (result.view left).SameAt (result.view right) index := by
  intro left right
  have same : Text.equalIgnoringAsciiCase left right = true := by decide +kernel
  have fits : left.utf8ByteSize ≤ maxOffset := by decide +kernel
  obtain ⟨scanned, views⟩ := lex_ignores_letter_case same
  exact ⟨⟨same, fits⟩, scanned, views fits⟩

end FormulaLexer
