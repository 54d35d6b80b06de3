import FormulaLexer.Token.Basic

/-!
# Token buffers

A growing sequence of tokens together with the number of tokens its storage holds
before it has to grow. A full buffer grows by its own size, by sixteen at least.
-/

set_option autoImplicit false

namespace FormulaLexer

/-- Tokens in order of arrival, and the room reserved for them. -/
structure TokenBuffer where
  tokens : Array Token
  capacity : Nat

namespace TokenBuffer

def tokenBytes : Nat := 12

/-- The most bytes that storage can have. -/
def maxStorage : Nat := 0x7FFFFFFFFFFFFFFF

/-- An empty buffer without room. -/
def empty : TokenBuffer := ⟨#[], 0⟩

/-- An empty buffer with room for `capacity` tokens, if storage can hold that many. -/
def withCapacity (capacity : Nat) : Except Fault TokenBuffer :=
  if capacity * tokenBytes ≤ maxStorage then .ok ⟨#[], capacity⟩
  else .error (.capacityOverflow capacity)

def size (buffer : TokenBuffer) : Nat := buffer.tokens.size

def isEmpty (buffer : TokenBuffer) : Bool := buffer.size == 0

/-- The room after making sure that one more token fits. -/
def grownCapacity (buffer : TokenBuffer) : Nat :=
  if buffer.size < buffer.capacity then buffer.capacity
  else buffer.capacity + max buffer.capacity 16

/-- The ends of a token must be in order before it is stored. -/
def checkEnds (token : Token) : EStateM Fault TokenBuffer Unit :=
  if token.start ≤ token.stop then pure ()
  else throw (.reversedToken token.start token.stop)

def reserve : EStateM Fault TokenBuffer Unit :=
  modify fun buffer => { buffer with capacity := buffer.grownCapacity }

/-- Appends a token. A token with exchanged ends is refused, and the buffer is handed on as it
stands by then. -/
def push (token : Token) : EStateM Fault TokenBuffer Unit := do
  checkEnds token
  reserve
  modify fun buffer => { buffer with tokens := buffer.tokens.push token }

/-- The buffer with one more token in it, the room grown where needed. -/
def store (buffer : TokenBuffer) (token : Token) : TokenBuffer :=
  ⟨buffer.tokens.push token, buffer.grownCapacity⟩

theorem toList_foldl_store (buffer : TokenBuffer) (more : List Token) :
    (more.foldl store buffer).tokens.toList = buffer.tokens.toList ++ more := by
  induction more generalizing buffer with
  | nil => simp
  | cons token more ih =>
      rw [List.foldl_cons, ih]
      simp [store]

theorem push_ordered {token : Token} (ordered : token.start ≤ token.stop) (buffer : TokenBuffer) :
    push token buffer = .ok () (buffer.store token) := by
  have checked : checkEnds token = pure () := if_pos ordered
  rw [push, checked]
  rfl

theorem push_bind {α : Type} {token : Token} (ordered : token.start ≤ token.stop)
    (next : Unit → EStateM Fault TokenBuffer α) (buffer : TokenBuffer) :
    (push token >>= next) buffer = next () (buffer.store token) := by
  simp only [bind, EStateM.bind, push_ordered ordered]

/-- The check comes first, so a refused token changes neither the tokens nor the room. -/
theorem push_reversed {token : Token} (reversed : token.stop < token.start)
    (buffer : TokenBuffer) :
    push token buffer = .error (.reversedToken token.start token.stop) buffer := by
  have refused : checkEnds token = throw (.reversedToken token.start token.stop) :=
    if_neg (Nat.not_le.mpr reversed)
  rw [push, refused]
  rfl

def get? (buffer : TokenBuffer) (index : Nat) : Option Token := buffer.tokens[index]?

def kind? (buffer : TokenBuffer) (index : Nat) : Option TokenKind :=
  (buffer.get? index).map (·.kind)

/-- The token at an index that must be held. -/
def get (buffer : TokenBuffer) (index : Nat) : Except Fault Token :=
  match buffer.get? index with
  | some token => .ok token
  | none => .error (.noSuchToken index)

/-- Two buffers hold the same tokens; the room reserved plays no part. -/
def sameTokens (left right : TokenBuffer) : Bool :=
  left.tokens == right.tokens

def display (buffer : TokenBuffer) : String :=
  s!"TokenBuffer({buffer.size} tokens)"

end TokenBuffer

end FormulaLexer
