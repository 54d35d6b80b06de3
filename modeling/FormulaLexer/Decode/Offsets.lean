import FormulaLexer.Decode
import FormulaLexer.Lexeme.Bytes
import FormulaLexer.Lexeme.Word

/-!
# Decoding by offsets

How values and the kinds of words are read from the bytes of a text. The readers search, read and
cut at offsets that they compute, and they compute with numbers of few bits. A read or a cut outside
the bytes, a cut inside a character, and a number that does not fit its bits are faults. Nothing is
assumed about the text, so a reader has to look before each of these steps.
-/

set_option autoImplicit false
set_option linter.unusedVariables false

namespace FormulaLexer

namespace Offsets

/-! ## Checked steps -/

def bytes (text : String) : List UInt8 := text.toUTF8.data.toList

def readByte (bytes : List UInt8) (index : Nat) : Except Fault UInt8 :=
  match bytes[index]? with
  | some byte => .ok byte
  | none => .error (.readOutOfBounds index)

/-- The bytes from `start` up to `stop`, both of which must be in range and in order. -/
def cutBytes (bytes : List UInt8) (start stop : Nat) : Except Fault (List UInt8) :=
  if start ≤ stop ∧ stop ≤ bytes.length then .ok ((bytes.take stop).drop start)
  else .error (.noSlice start stop)

/-- The text from `start` up to `stop`, which must be a region of the text. -/
def cutText (text : String) (start stop : Nat) : Except Fault String :=
  match region? text start stop with
  | some region => .ok region
  | none => .error (.noSlice start stop)

/-- A number that is kept in bits which hold numbers up to `limit`. -/
def bounded (limit number : Nat) : Except Fault Nat :=
  if number ≤ limit then .ok number else .error (.numberOverflow limit)

/-- The distance back from one offset to another; it must not lead below zero. -/
def stepBack (offset distance : Nat) : Except Fault Nat :=
  if distance ≤ offset then .ok (offset - distance) else .error (.numberOverflow offset)

/-! ## Strings -/

/-- The offset of the quote that ends a literal, at `position` or behind it. Pairs of quotes are
stepped over. -/
def closingQuote? (bytes : List UInt8) (position : Nat) : Except Fault (Option Nat) :=
  match cutBytes bytes position bytes.length with
  | .error fault => .error fault
  | .ok ahead =>
    match ahead.idxOf? Cursor.quoteByte with
    | none => .ok none
    | some distance =>
      if paired : bytes[position + distance + 1]? = some Cursor.quoteByte then
        closingQuote? bytes (position + distance + 2)
      else .ok (some (position + distance))
termination_by bytes.length - position
decreasing_by
  have inside := (List.getElem?_eq_some_iff.mp paired).1
  omega

/-- The contents of a literal. The quote that ends it must be its last byte, and contents without a
quote are handed out as they stand. -/
def decodeString (raw : String) : Except Fault (Except DecodeError Text.Quoted.Contents) := do
  let all := bytes raw
  if all[0]? = some Cursor.quoteByte then
    match ← closingQuote? all 1 with
    | none => return .error .unterminatedString
    | some close =>
      if close + 1 = all.length then
        let body ← cutText raw 1 close
        if (bytes body).contains Cursor.quoteByte then
          return .ok ⟨String.ofList (Text.Quoted.collapse body.toList), false⟩
        else return .ok ⟨body, true⟩
      else return .error .unterminatedString
  else return .error .unterminatedString

/-! ## Dates -/

def digit? (byte : UInt8) : Option Nat :=
  if 0x30 ≤ byte ∧ byte ≤ 0x39 then some (byte - 0x30).toNat else none

/-- The number that two digits from an index on write. -/
def twoDigits (bytes : List UInt8) (index : Nat) : OptionT (Except Fault) Nat := do
  let tens ← OptionT.mk (.ok (bytes[index]?.bind digit?))
  let ones ← OptionT.mk (.ok (bytes[index + 1]?.bind digit?))
  bounded 0xFF (10 * tens + ones)

def expect (bytes : List UInt8) (index : Nat) (byte : UInt8) : OptionT (Except Fault) Unit :=
  OptionT.mk (.ok (if bytes[index]? = some byte then some () else none))

def isDivider (byte : UInt8) : Bool :=
  byte == 0x20 || (0x09 ≤ byte && byte ≤ 0x0D)

def day (bytes : List UInt8) : OptionT (Except Fault) Date := do
  let month ← twoDigits bytes 0
  expect bytes 2 '/'.toUInt8
  let day ← twoDigits bytes 3
  expect bytes 5 '/'.toUInt8
  let century ← twoDigits bytes 6
  let year ← twoDigits bytes 8
  return ⟨← bounded 0xFFFF (100 * century + year), month, day, none⟩

/-- The time behind a divider, which is the first byte. -/
def clockTime (bytes : List UInt8) : OptionT (Except Fault) ClockTime := do
  let hour ← twoDigits bytes 1
  expect bytes 3 ':'.toUInt8
  let minute ← twoDigits bytes 4
  expect bytes 6 ':'.toUInt8
  let second ← twoDigits bytes 7
  return ⟨hour, minute, second⟩

/-- A date alone has ten bytes, and nineteen together with a divider and a time. -/
def date (bytes : List UInt8) : OptionT (Except Fault) Date := do
  if bytes.length = 10 then day bytes
  else if bytes.length = 19 then
    let front ← cutBytes bytes 0 10
    let back ← cutBytes bytes 10 bytes.length
    let date ← day front
    if isDivider (← readByte back 0) then
      return { date with time := some (← clockTime back) }
    else failure
  else failure

def dateOfText (text : String) : Except Fault (Option Date) := (date (bytes text)).run

def decodeDate (raw : String) : Except Fault (Except DecodeError Date) := do
  match dateInside? raw.toList with
  | none => return .error (.malformedDate raw)
  | some inside =>
    match ← dateOfText (String.ofList inside) with
    | some date => return .ok date
    | none => return .error (.malformedDate raw)

/-! ## Names, words and separators -/

/-- The scope that the last character selects, and the text in front of it. -/
def splitSigil (text : String) : Except Fault (Scope × String) := do
  match text.toList.getLast? with
  | none => return (.builtin, text)
  | some last =>
    match Scope.ofSigil? last with
    | none => return (.builtin, text)
    | some scope => return (scope, ← cutText text 0 (← stepBack text.utf8ByteSize last.utf8Size))

def symbol (text : String) : Except Fault Symbol := do
  let (scope, body) ← splitSigil text
  let (path, name) := Symbol.splitPath body.toList
  return ⟨scope, String.ofList path, String.ofList name⟩

def lowerByte (byte : UInt8) : UInt8 :=
  if 0x41 ≤ byte ∧ byte ≤ 0x5A then byte + 0x20 else byte

/-- The bytes of `front` in place of as many bytes of `room`; what does not fit is dropped. -/
def overwrite (room front : List UInt8) : List UInt8 :=
  front.take room.length ++ room.drop front.length

/-- The operator that a text spells. The text is folded into a place as long as the longest
spelling, and looked up from there. -/
def operator (text : String) : Except Fault Operator := do
  let all := bytes text
  if all.length = 0 ∨ Operator.maxSpellingBytes < all.length ∨ !all.all (· < 0x80) then
    return .invalid
  else
    let room := List.replicate Operator.maxSpellingBytes 0
    let key ← cutBytes (overwrite room (all.map lowerByte)) 0 all.length
    match String.fromUTF8? ⟨key.toArray⟩ with
    | none => return .invalid
    | some spelling => return (Operator.spellings.lookup spelling).getD .invalid

/-- The kind of a reserved word. The first byte is looked at only if there may be a reserved word of
that length. -/
def keyword? (text : String) : Except Fault (Option TokenKind) := do
  let all := bytes text
  if 2 ≤ all.length ∧ all.length ≤ 5 then
    if (asciiChar? (← readByte all 0)).any Char.isAlpha then
      let sameLength := keywordsOfLength all.length
      return (sameLength.find? fun entry => Text.equalIgnoringAsciiCase text entry.1).map (·.2)
    else return none
  else return none

def wordKind (text : String) : Except Fault TokenKind := do
  if (← operator text) = .invalid then return (← keyword? text).getD .identifier
  else return .operator

def startsWithSeparator (text : String) : Bool :=
  match bytes text with
  | [] => false
  | [only] => Cursor.isSeparatorByte only
  | first :: second :: _ =>
    (first == Cursor.superscriptTwoLead && second == Cursor.superscriptTwoTail) ||
      Cursor.isSeparatorByte first

end Offsets

/-! ## Calls on views -/

/-- What can be asked of a token of a view. -/
inductive TokenCall where
  | rawText | string | number | symbol | date | startsWithSeparator | operator
  deriving DecidableEq

namespace TokenCall

abbrev Value : TokenCall → Type
  | .rawText => String
  | .string => Text.Quoted.Contents
  | .number => Float
  | .symbol => Symbol
  | .date => Date
  | .startsWithSeparator => Bool
  | .operator => Operator

/-- The kind that a token must have for the call. -/
def kind? : TokenCall → Option TokenKind
  | .string => some .string
  | .number => some .number
  | .date => some .date
  | _ => none

/-- The value that a call reads from the text of a token. -/
def read : (call : TokenCall) → String → Except Fault (Except DecodeError call.Value)
  | .rawText, raw => .ok (.ok raw)
  | .string, raw => Offsets.decodeString raw
  | .number, raw => .ok (decodeNumber raw)
  | .symbol, raw => (Offsets.symbol raw).map .ok
  | .date, raw => Offsets.decodeDate raw
  | .startsWithSeparator, raw => .ok (.ok (Offsets.startsWithSeparator raw))
  | .operator, raw => (Offsets.operator raw).map .ok

end TokenCall

namespace TokenView

/-- The token at an index, which must have the kind that the call asks for. -/
def tokenFor (view : TokenView) (call : TokenCall) (index : Nat) : Except DecodeError Token :=
  match call.kind? with
  | some kind => view.tokenOfKind kind index
  | none => view.token index

/-- The answer to a call about the token at an index. -/
def answer (view : TokenView) (call : TokenCall) (index : Nat) :
    Except Fault (Except DecodeError call.Value) :=
  match view.tokenFor call index with
  | .error error => .ok (.error error)
  | .ok token => call.read (token.text view.source)

end TokenView

end FormulaLexer
