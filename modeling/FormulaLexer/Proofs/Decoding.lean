import FormulaLexer.Proofs.Agreement
import FormulaLexer.Proofs.OffsetDates

/-!
# Calls on any tokens

A view joins a text with tokens that may come from elsewhere: their ends may lie behind the text or
inside its characters, in any order. No call on a view faults. A call looks at the index first, at
the kind of the token next if it asks for one, and for the rest at the text of the token alone,
which is empty when the token is no region of the text.
-/

set_option autoImplicit false

namespace FormulaLexer

/-! ## Reading a text -/

namespace TokenCall

/-- The value that a call finds in a text, read by characters. -/
def decode : (call : TokenCall) → String → Except DecodeError call.Value
  | .rawText, raw => .ok raw
  | .string, raw => decodeString raw
  | .number, raw => decodeNumber raw
  | .symbol, raw => .ok (Symbol.ofText raw)
  | .date, raw => decodeDate raw
  | .startsWithSeparator, raw => .ok (FormulaLexer.startsWithSeparator raw)
  | .operator, raw => .ok (Operator.ofSpelling raw)

/-- No text makes a reader fault, and the readers by offsets find what the characters say. -/
theorem read_eq (call : TokenCall) (raw : String) : call.read raw = .ok (call.decode raw) := by
  cases call with
  | rawText => rfl
  | string => exact Offsets.decodeString_eq raw
  | number => rfl
  | symbol => rw [read, Offsets.symbol_eq]; rfl
  | date => exact Offsets.decodeDate_eq raw
  | startsWithSeparator => rw [read, Offsets.startsWithSeparator_eq]; rfl
  | operator => rw [read, Offsets.operator_eq]; rfl

/-- A text is refused for what it says, never for where it stands. -/
theorem decode_error {call : TokenCall} {raw : String} {error : DecodeError}
    (refused : call.decode raw = .error error) :
    (∃ cause, error = .malformedNumber raw cause) ∨ error = .malformedDate raw ∨
      error = .unterminatedString := by
  cases call with
  | rawText | symbol | startsWithSeparator | operator => cases refused
  | string =>
      rw [decode, decodeString] at refused
      split at refused
      · cases refused
      · cases refused
        exact .inr (.inr rfl)
  | number =>
      rw [decode, decodeNumber] at refused
      split at refused
      · cases refused
      · next cause _ =>
          cases refused
          exact .inl ⟨cause, rfl⟩
  | date =>
      rw [decode, decodeDate] at refused
      split at refused
      · cases refused
      · cases refused
        exact .inr (.inl rfl)

end TokenCall

/-! ## Finding a token -/

namespace TokenView

/-- The index is out of range, or the token has another kind than the call asks for, or the call
gets the token. -/
theorem tokenFor_cases (view : TokenView) (call : TokenCall) (index : Nat) :
    (view.size ≤ index ∧
        view.tokenFor call index = .error (.indexOutOfRange index view.size)) ∨
      (∃ token kind, view.tokens.get? index = some token ∧ call.kind? = some kind ∧
        token.kind ≠ kind ∧
        view.tokenFor call index = .error (.unexpectedKind kind token.kind)) ∨
      ∃ token, view.tokens.get? index = some token ∧
        (∀ kind, call.kind? = some kind → token.kind = kind) ∧
        view.tokenFor call index = .ok token := by
  cases held : view.tokens.get? index with
  | none =>
      have outside : view.size ≤ index := Array.getElem?_eq_none_iff.mp held
      refine .inl ⟨outside, ?_⟩
      unfold tokenFor
      split
      · simp [tokenOfKind, TokenView.token, held, bind, Except.bind]
      · simp [TokenView.token, held]
  | some token =>
      refine .inr ?_
      cases asked : call.kind? with
      | none =>
          refine .inr ⟨token, rfl, by simp, ?_⟩
          simp [tokenFor, asked, TokenView.token, held]
      | some kind =>
          by_cases same : token.kind = kind
          · refine .inr ⟨token, rfl, by simpa using same, ?_⟩
            subst same
            simp only [tokenFor, asked]
            exact tokenOfKind_eq held
          · refine .inl ⟨token, kind, rfl, rfl, same, ?_⟩
            simp [tokenFor, asked, tokenOfKind, TokenView.token, held, same, bind, Except.bind]

/-! ## Answers -/

/-- The answer that the view itself has to a call, by characters. -/
def reply (view : TokenView) (index : Nat) : (call : TokenCall) → Except DecodeError call.Value
  | .rawText => view.rawText index
  | .string => view.string index
  | .number => view.number index
  | .symbol => view.symbol index
  | .date => view.date index
  | .startsWithSeparator => view.startsWithSeparator index
  | .operator => view.operator index

private theorem reply_eq (view : TokenView) (call : TokenCall) (index : Nat) :
    view.reply index call =
      (view.tokenFor call index).bind fun token => call.decode (token.text view.source) := by
  cases call with
  | rawText | string | number | date => rfl
  | symbol | startsWithSeparator | operator =>
      simp only [reply, symbol, startsWithSeparator, operator, rawText, tokenFor, TokenCall.kind?]
      cases view.token index with
      | error error => rfl
      | ok token => rfl

theorem answer_eq (view : TokenView) (call : TokenCall) (index : Nat) :
    view.answer call index = .ok (view.reply index call) := by
  rw [answer, reply_eq]
  cases view.tokenFor call index with
  | error error => rfl
  | ok token => exact call.read_eq (token.text view.source)

end TokenView

/-- `call.Answered view index result`: a call about the token at an index gives an error of its own
for an index out of range and for a token of another kind, in no other case, and otherwise what it
finds in the text of the token. -/
structure TokenCall.Answered (call : TokenCall) (view : TokenView) (index : Nat)
    (result : Except DecodeError call.Value) : Prop where
  outOfRange : ∀ place size, result = .error (.indexOutOfRange place size) ↔
    view.size ≤ index ∧ place = index ∧ size = view.size
  unexpected : ∀ expected found, result = .error (.unexpectedKind expected found) ↔
    call.kind? = some expected ∧ view.tokens.kind? index = some found ∧ found ≠ expected
  decoded : ∀ token, view.tokens.get? index = some token →
    (∀ kind, call.kind? = some kind → token.kind = kind) →
    result = call.decode (token.text view.source)

namespace TokenCall.Answered

variable {call : TokenCall} {view : TokenView} {index : Nat} {token : Token} {kind : TokenKind}

theorem missing (outside : view.size ≤ index) :
    call.Answered view index (.error (.indexOutOfRange index view.size)) := by
  have none : view.tokens.get? index = none := Array.getElem?_eq_none_iff.mpr outside
  constructor
  · intro place size
    simp [outside, eq_comm]
  · intro expected found
    simp [TokenBuffer.kind?, none]
  · intro token held
    cases none.symm.trans held

theorem refused (held : view.tokens.get? index = some token) (asked : call.kind? = some kind)
    (differs : token.kind ≠ kind) :
    call.Answered view index (.error (.unexpectedKind kind token.kind)) := by
  have inside : index < view.size := (Array.getElem?_eq_some_iff.mp held).1
  constructor
  · intro place size
    simp [Nat.not_le.mpr inside]
  · intro expected found
    simp only [Except.error.injEq, DecodeError.unexpectedKind.injEq, asked, Option.some.injEq,
      TokenBuffer.kind?, held, Option.map_some]
    constructor
    · rintro ⟨rfl, rfl⟩
      exact ⟨rfl, rfl, differs⟩
    · rintro ⟨same, here, _⟩
      exact ⟨same, here⟩
  · intro other again agrees
    cases held.symm.trans again
    exact absurd (agrees kind asked) differs

theorem read (held : view.tokens.get? index = some token)
    (agrees : ∀ kind, call.kind? = some kind → token.kind = kind) :
    call.Answered view index (call.decode (token.text view.source)) := by
  have inside : index < view.size := (Array.getElem?_eq_some_iff.mp held).1
  constructor
  · intro place size
    apply iff_of_false
    · intro failed
      rcases decode_error failed with ⟨_, other⟩ | other | other <;> cases other
    · rintro ⟨outside, _⟩
      omega
  · intro expected found
    apply iff_of_false
    · intro failed
      rcases decode_error failed with ⟨_, other⟩ | other | other <;> cases other
    · rintro ⟨asked, here, differs⟩
      rw [TokenBuffer.kind?, held, Option.map_some, Option.some.injEq] at here
      exact differs (here.symm.trans (agrees expected asked))
  · intro other again _
    cases held.symm.trans again
    rfl

end TokenCall.Answered

private theorem TokenView.answered_reply (view : TokenView) (call : TokenCall) (index : Nat) :
    call.Answered view index (view.reply index call) := by
  rw [reply_eq]
  rcases view.tokenFor_cases call index with
    ⟨outside, found⟩ | ⟨token, kind, held, asked, differs, found⟩ | ⟨token, held, agrees, found⟩
  · rw [found]
    exact .missing outside
  · rw [found]
    exact .refused held asked differs
  · rw [found]
    exact .read held agrees

/-! ## Texts of any tokens -/

section

variable {source : String} {token : Token}

private theorem text_of_no_region
    (outside : source.utf8ByteSize < token.stop ∨
      ¬ String.Pos.Raw.IsValid source ⟨token.start⟩ ∨
      ¬ String.Pos.Raw.IsValid source ⟨token.stop⟩) :
    token.text source = "" := by
  have noRegion : region? source token.start token.stop = none := by
    rw [region?]
    rcases outside with behind | first | last
    · have last : ¬ String.Pos.Raw.IsValid source ⟨token.stop⟩ :=
        fun valid => absurd valid.le_rawEndPos (Nat.not_le.mpr behind)
      rw [pos?_eq_none last]
      cases source.pos? ⟨token.start⟩ <;> rfl
    · rw [pos?_eq_none first]
    · rw [pos?_eq_none last]
      cases source.pos? ⟨token.start⟩ <;> rfl
  rw [Token.text, noRegion, Option.getD_none]

private theorem bytes_of_region (ordered : token.start ≤ token.stop)
    (first : String.Pos.Raw.IsValid source ⟨token.start⟩)
    (last : String.Pos.Raw.IsValid source ⟨token.stop⟩) :
    (token.text source).toByteArray = source.toByteArray.extract token.start token.stop := by
  obtain ⟨before, middle, later, whole, start, stop⟩ := parts_of_isValid ordered first last
  have bytes := extract_encoded before middle later ByteArray.empty
  rw [← whole, String.ofList_toList, ByteArray.append_empty] at bytes
  rw [Token.text, start, stop, region?_between whole, Option.getD_some, bytes]

end

/-- No call about any index of a view faults, whatever the text is and wherever the tokens come
from. The answer is an index out of range exactly for an index behind the tokens, and another kind
exactly for a token of another kind than the call asks for. For every other token it is read from
the text of the token, which is empty if the token ends behind the source or an end lies inside a
character. -/
theorem answer_on_any_tokens (view : TokenView) (call : TokenCall) (index : Nat) :
    view.answer call index = .ok (view.reply index call) ∧
      call.Answered view index (view.reply index call) ∧
      ∀ token, view.tokens.get? index = some token →
        (view.source.utf8ByteSize < token.stop ∨
            ¬ String.Pos.Raw.IsValid view.source ⟨token.start⟩ ∨
            ¬ String.Pos.Raw.IsValid view.source ⟨token.stop⟩ →
          token.text view.source = "") ∧
        (token.start ≤ token.stop → String.Pos.Raw.IsValid view.source ⟨token.start⟩ →
          String.Pos.Raw.IsValid view.source ⟨token.stop⟩ →
          (token.text view.source).toByteArray =
            view.source.toByteArray.extract token.start token.stop) := by
  refine ⟨view.answer_eq call index, view.answered_reply call index, ?_⟩
  intro token _
  exact ⟨text_of_no_region, bytes_of_region⟩

example :
    let view : TokenView := ⟨"\"\u00e9\"", ⟨#[⟨0, 4, .string⟩, ⟨2, 9, .string⟩], 2⟩⟩
    view.answer .string 0 = .ok (.ok ⟨"\u00e9", true⟩) ∧
      view.answer .string 1 = .ok (.error .unterminatedString) ∧
      view.answer .date 1 = .ok (.error (.unexpectedKind .date .string)) ∧
      view.answer .rawText 2 = .ok (.error (.indexOutOfRange 2 2)) := by
  decide +kernel

end FormulaLexer
