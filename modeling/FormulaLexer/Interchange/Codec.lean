import FormulaLexer.Date.Basic
import FormulaLexer.Interchange.Value
import FormulaLexer.Operator
import FormulaLexer.Symbol.Basic
import FormulaLexer.Token.Buffer

/-!
# Interchange forms

Each type is written as a value and read back from one. Reading checks the shape and
the size of numbers and nothing else: exchanged ends of a span, for instance, are
accepted.
-/

set_option autoImplicit false

namespace FormulaLexer

def byteBound : Nat := 0xFF

def wordBound : Nat := 0xFFFF

/-- Reads a field that must be present. -/
def required {α : Type} (read : Value → Option α) : Option Value → Option α
  | some value => read value
  | none => none

/-- Reads a field that may be absent or null. -/
def optional {α : Type} (read : Value → Option α) : Option Value → Option (Option α)
  | none => some none
  | some .null => some none
  | some value => (read value).map some

namespace Span

def toValue (span : Span) : Value :=
  .object [("start", .natural span.start), ("end", .natural span.stop)]

def ofValue? (value : Value) : Option Span := do
  match ← value.fields? ["start", "end"] with
  | [start, stop] =>
    return ⟨← required (Value.natural? maxOffset) start,
      ← required (Value.natural? maxOffset) stop⟩
  | _ => none

end Span

namespace TokenKind

def toValue (kind : TokenKind) : Value := .text kind.name

def ofValue? (value : Value) : Option TokenKind :=
  value.alternative?.bind ofName?

end TokenKind

namespace Operator

def toValue (operator : Operator) : Value := .text operator.name

def ofValue? (value : Value) : Option Operator :=
  value.alternative?.bind ofName?

end Operator

namespace Scope

def toValue (scope : Scope) : Value := .text scope.name

def ofValue? (value : Value) : Option Scope :=
  value.alternative?.bind ofName?

end Scope

namespace Token

def toValue (token : Token) : Value :=
  .object [("start", .natural token.start), ("end", .natural token.stop),
    ("kind", token.kind.toValue)]

def ofValue? (value : Value) : Option Token := do
  match ← value.fields? ["start", "end", "kind"] with
  | [start, stop, kind] =>
    return ⟨← required (Value.natural? maxOffset) start,
      ← required (Value.natural? maxOffset) stop, ← required TokenKind.ofValue? kind⟩
  | _ => none

end Token

namespace TokenBuffer

/-- Writes the tokens of a buffer; the room reserved is not written. -/
def toValue (buffer : TokenBuffer) : Value :=
  .object [("records", .list (buffer.tokens.toList.map Token.toValue))]

/-- Reads a buffer with room for just the tokens it holds. -/
def ofValue? (value : Value) : Option TokenBuffer := do
  match ← value.fields? ["records"] with
  | [records] =>
    let tokens ← (← required Value.list? records).mapM Token.ofValue?
    return ⟨tokens.toArray, tokens.length⟩
  | _ => none

end TokenBuffer

namespace Symbol

def toValue (symbol : Symbol) : Value :=
  .object [("scope", symbol.scope.toValue), ("path", .text symbol.path),
    ("name", .text symbol.name)]

def ofValue? (value : Value) : Option Symbol := do
  match ← value.fields? ["scope", "path", "name"] with
  | [scope, path, name] =>
    return ⟨← required Scope.ofValue? scope, ← required Value.text? path,
      ← required Value.text? name⟩
  | _ => none

end Symbol

namespace ClockTime

def toValue (time : ClockTime) : Value :=
  .object [("hour", .natural time.hour), ("minute", .natural time.minute),
    ("second", .natural time.second)]

def ofValue? (value : Value) : Option ClockTime := do
  match ← value.fields? ["hour", "minute", "second"] with
  | [hour, minute, second] =>
    return ⟨← required (Value.natural? byteBound) hour,
      ← required (Value.natural? byteBound) minute,
      ← required (Value.natural? byteBound) second⟩
  | _ => none

end ClockTime

namespace Date

/-- Writes a date; an absent time is written as null. -/
def toValue (date : Date) : Value :=
  .object [("year", .natural date.year), ("month", .natural date.month),
    ("day", .natural date.day), ("time", (date.time.map ClockTime.toValue).getD .null)]

def ofValue? (value : Value) : Option Date := do
  match ← value.fields? ["year", "month", "day", "time"] with
  | [year, month, day, time] =>
    return ⟨← required (Value.natural? wordBound) year,
      ← required (Value.natural? byteBound) month,
      ← required (Value.natural? byteBound) day, ← optional ClockTime.ofValue? time⟩
  | _ => none

end Date

end FormulaLexer
