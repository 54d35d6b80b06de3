import FormulaLexer.Fault

/-!
# Byte spans

A span names the bytes from `start` up to, and not including, `stop`. Nothing in
the type forbids exchanged ends: only the length of such a span is refused.
-/

set_option autoImplicit false

namespace FormulaLexer

/-- A half-open range of byte offsets. -/
structure Span where
  start : Nat
  stop : Nat
  deriving DecidableEq

namespace Span

/-- The span of a range whose ends both fit; the start is looked at first. -/
def ofRange (start stop : Nat) : Except RangeError Span :=
  if maxOffset < start then .error (.startTooLarge start)
  else if maxOffset < stop then .error (.stopTooLarge stop)
  else .ok ⟨start, stop⟩

/-- A span is empty when its ends coincide; exchanged ends do not make it empty. -/
def isEmpty (span : Span) : Bool :=
  span.start == span.stop

def length (span : Span) : Except Fault Nat :=
  if span.start ≤ span.stop then .ok (span.stop - span.start)
  else .error (.reversedSpan span.start span.stop)

/-- The span moved to the right by `distance` bytes. -/
def shift (span : Span) (distance : Nat) : Span :=
  ⟨span.start + distance, span.stop + distance⟩

/-- The text of a span: its ends with two dots between them. -/
def display (span : Span) : String :=
  s!"{span.start}..{span.stop}"

end Span

end FormulaLexer
