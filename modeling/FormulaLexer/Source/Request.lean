import FormulaLexer.Source.Cursor

/-!
# Requests to a cursor

Everything that a cursor can be asked for, in any order. A question leaves the cursor
where it stands, a move takes it on by bytes or characters, and a search takes it to a
place in the source. A request that faults has no answer and ends the run.
-/

set_option autoImplicit false

namespace FormulaLexer

/-- What a cursor can be asked about its place and about the bytes of its buffer. -/
inductive CursorQuestion where
  | current
  | peek
  | peekSecond
  | position
  | atEnd
  | sourceLength
  | charWidth (byte : UInt8)
  | slice (start stop : Nat)
  | sliceFrom (start : Nat)

/-- Moves that take no notice of the end of the source. -/
inductive CursorMove where
  | advance
  | advanceBy (count : Nat)
  | advanceChar
  | eatWhile (predicate : UInt8 → Bool)

/-- Moves to a byte of the source or to its end. -/
inductive CursorSearch where
  | skipTo (byte : UInt8)
  | skipLine

inductive CursorRequest where
  | read (question : CursorQuestion)
  | move (step : CursorMove)
  | search (target : CursorSearch)

inductive CursorAnswer where
  | done
  | byte (value : UInt8)
  | number (value : Nat)
  | flag (value : Bool)
  | text (value : String)
  deriving DecidableEq

namespace Cursor

variable {buffer : SourceBuffer}

def read (cursor : Cursor buffer) : CursorQuestion → Except Fault CursorAnswer
  | .current => cursor.current.map .byte
  | .peek => cursor.peek.map .byte
  | .peekSecond => cursor.peekSecond.map .byte
  | .position => .ok (.number cursor.position)
  | .atEnd => .ok (.flag cursor.atEnd)
  | .sourceLength => .ok (.number buffer.length)
  | .charWidth byte => .ok (.number (charWidth byte))
  | .slice start stop => (slice buffer start stop).map .text
  | .sliceFrom start => (cursor.sliceFrom start).map .text

def move (cursor : Cursor buffer) : CursorMove → Except Fault (Cursor buffer)
  | .advance => cursor.advance
  | .advanceBy count => cursor.advanceBy count
  | .advanceChar => cursor.advanceChar
  | .eatWhile predicate => cursor.eatWhile predicate

def search (cursor : Cursor buffer) : CursorSearch → Except Fault (CursorAnswer × Cursor buffer)
  | .skipTo byte => (cursor.skipTo byte).map fun (found, next) => (.flag found, next)
  | .skipLine => cursor.skipLine.map (.done, ·)

/-- The answer to a request, and the place at which the cursor stands then. -/
def handle (cursor : Cursor buffer) : CursorRequest → Except Fault (CursorAnswer × Cursor buffer)
  | .read question => (cursor.read question).map (·, cursor)
  | .move step => (cursor.move step).map (.done, ·)
  | .search target => cursor.search target

/-- The place of a cursor after requests, all of which must be answered. -/
def serve (cursor : Cursor buffer) (requests : List CursorRequest) : Except Fault (Cursor buffer) :=
  requests.foldlM (fun place request => (place.handle request).map (·.2)) cursor

end Cursor

end FormulaLexer
