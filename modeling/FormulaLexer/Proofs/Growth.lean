import Mathlib.Algebra.Ring.Nat
import FormulaLexer.Proofs.Scanning

/-!
# The room of a token buffer

A token buffer is filled by single tokens and by whole sources, in any order. Whatever it was asked
for, it holds the tokens that were not refused, in the order of the requests, and its room is known
from the room that it began with and the number of its tokens alone: the first room as long as that
is enough, and otherwise at most about twice what is needed. Each time the room changes it at least
doubles, from sixteen on. A refused request comes with the buffer as it stands by then, which is the
buffer as it was: whatever is checked is checked before the buffer changes.
-/

set_option autoImplicit false

namespace FormulaLexer

/-- What a token buffer can be asked for: to append a token, given whole or by its parts, or the
tokens of a source. -/
inductive BufferRequest where
  | push (token : Token)
  | scan (source : String)

namespace BufferRequest

/-- The tokens that a request adds; none, if it is refused. The tokens of a source keep the offsets
that they have in the source. -/
def stored : BufferRequest → List Token
  | .push token => if token.start ≤ token.stop then [token] else []
  | .scan source =>
    match tokenize source with
    | .ok found => found.tokens.toList
    | .error _ => []

end BufferRequest

namespace TokenBuffer

variable {buffer left right : TokenBuffer} {token : Token} {tokens : List Token}
  {room changes : Nat}

def handle : BufferRequest → EStateM Fault TokenBuffer Unit
  | .push token => push token
  | .scan source => do let _ ← scanInto source

/-- The buffer after a request, as the request hands it on: also one that is refused. -/
def after (buffer : TokenBuffer) (request : BufferRequest) : TokenBuffer :=
  match handle request buffer with
  | .ok _ next => next
  | .error _ left => left

def serve (buffer : TokenBuffer) (requests : List BufferRequest) : TokenBuffer :=
  requests.foldl after buffer

/-- How often the room changes while tokens are appended one after the other. -/
def roomChanges (buffer : TokenBuffer) : List Token → Nat
  | [] => 0
  | token :: rest =>
    let next := buffer.after (.push token)
    (if next.capacity = buffer.capacity then 0 else 1) + next.roomChanges rest

/-! ## Requests are appended tokens -/

theorem stored_scan {source : String} (fits : source.utf8ByteSize ≤ maxOffset) :
    (BufferRequest.scan source).stored = Grammar.tokens source := by
  obtain ⟨result, scanned, found, _⟩ := lex_follows fits
  simp only [BufferRequest.stored, tokenize, scanned, Except.map, found]

theorem stored_large {source : String} (large : maxOffset < source.utf8ByteSize) :
    (BufferRequest.scan source).stored = [] := by
  simp only [BufferRequest.stored, tokenize, lex_large large, Except.bind, Except.map]
  cases TokenBuffer.withCapacity (estimatedTokens source) with
  | error fault => rfl
  | ok room => rfl

private theorem after_ordered (ordered : token.start ≤ token.stop) (buffer : TokenBuffer) :
    buffer.after (.push token) = buffer.store token := by
  rw [after, handle, push_ordered ordered]

private theorem after_reversed (reversed : token.stop < token.start) (buffer : TokenBuffer) :
    buffer.after (.push token) = buffer := by
  rw [after, handle, push_reversed reversed]

private theorem after_scan {source : String} (fits : source.utf8ByteSize ≤ maxOffset)
    (buffer : TokenBuffer) :
    buffer.after (.scan source) = (Grammar.tokens source).foldl store buffer := by
  simp only [after, handle, bind, EStateM.bind, scanInto_eq fits, pure, EStateM.pure]

private theorem after_large {source : String} (large : maxOffset < source.utf8ByteSize)
    (buffer : TokenBuffer) : buffer.after (.scan source) = buffer := by
  simp only [after, handle, bind, EStateM.bind, scanInto_large large]

/-- A request appends the tokens that it adds, one after the other. -/
theorem after_eq (buffer : TokenBuffer) (request : BufferRequest) :
    buffer.after request = request.stored.foldl store buffer := by
  cases request with
  | push token =>
      by_cases ordered : token.start ≤ token.stop
      · rw [after_ordered ordered, BufferRequest.stored, if_pos ordered]
        rfl
      · rw [after_reversed (Nat.lt_of_not_le ordered), BufferRequest.stored, if_neg ordered]
        rfl
  | scan source =>
      by_cases fits : source.utf8ByteSize ≤ maxOffset
      · rw [after_scan fits, stored_scan fits]
      · have large := Nat.lt_of_not_le fits
        rw [after_large large, stored_large large]
        rfl

private theorem ordered_of_stored {request : BufferRequest} (added : token ∈ request.stored) :
    token.start ≤ token.stop := by
  cases request with
  | push given =>
      simp only [BufferRequest.stored] at added
      split at added
      · next ordered =>
          cases List.mem_singleton.mp added
          exact ordered
      · cases added
  | scan source =>
      by_cases fits : source.utf8ByteSize ≤ maxOffset
      · rw [stored_scan fits] at added
        obtain ⟨entry, among, rfl⟩ := List.mem_map.mp added
        have derivation := Grammar.reads_tokensFrom [] source.toList
        exact Nat.le_of_lt (Grammar.start_lt_stop_of_reads derivation among)
      · rw [stored_large (Nat.lt_of_not_le fits)] at added
        cases added

theorem serve_eq (buffer : TokenBuffer) (requests : List BufferRequest) :
    buffer.serve requests = (requests.flatMap BufferRequest.stored).foldl store buffer := by
  induction requests generalizing buffer with
  | nil => rfl
  | cons request requests ih =>
      simp only [serve, List.foldl_cons, after_eq, List.flatMap_cons, List.foldl_append] at ih ⊢
      exact ih _

private theorem serve_append (buffer : TokenBuffer) (earlier later : List BufferRequest) :
    buffer.serve (earlier ++ later) = (buffer.serve earlier).serve later :=
  List.foldl_append

/-! ## One token -/

/-- What is known of a buffer that began empty with a room, and whose room changed a number of
times. -/
structure Bounded (room changes : Nat) (buffer : TokenBuffer) : Prop where
  fits : buffer.size ≤ buffer.capacity
  kept : buffer.size ≤ room → buffer.capacity = room
  upper : buffer.capacity ≤ max room (2 * buffer.size + 14)
  lower : 1 ≤ changes → 16 * 2 ^ (changes - 1) ≤ buffer.capacity

private theorem size_store (buffer : TokenBuffer) (token : Token) :
    (buffer.store token).size = buffer.size + 1 := by
  simp only [store, size, Array.size_push]

private theorem capacity_store (buffer : TokenBuffer) (token : Token) :
    (buffer.store token).capacity =
      if buffer.size < buffer.capacity then buffer.capacity
      else buffer.capacity + max buffer.capacity 16 := rfl

private theorem Bounded.store_within (bounded : Bounded room changes buffer)
    (within : buffer.size < buffer.capacity) (token : Token) :
    Bounded room changes (buffer.store token) := by
  obtain ⟨_, kept, upper, lower⟩ := bounded
  have size := size_store buffer token
  have capacity : (buffer.store token).capacity = buffer.capacity := by
    rw [capacity_store, if_pos within]
  constructor
  case fits => omega
  case kept =>
    intro enough
    rw [capacity]
    exact kept (by omega)
  case upper => omega
  case lower =>
    intro changed
    rw [capacity]
    exact lower changed

/-- A full buffer has no more room than tokens, so what it grows by is bounded by their number. -/
theorem Bounded.store_full (bounded : Bounded room changes buffer)
    (full : ¬ buffer.size < buffer.capacity) (token : Token) :
    Bounded room (changes + 1) (buffer.store token) := by
  obtain ⟨fits, kept, _, lower⟩ := bounded
  have size := size_store buffer token
  have capacity : (buffer.store token).capacity = buffer.capacity + max buffer.capacity 16 := by
    rw [capacity_store, if_neg full]
  constructor
  case fits => omega
  case kept =>
    intro enough
    have same := kept (by omega)
    omega
  case upper => omega
  case lower =>
    intro _
    rw [capacity, Nat.add_sub_cancel]
    cases changes with
    | zero =>
        simp only [pow_zero, Nat.mul_one]
        omega
    | succ changes =>
        have before := lower (Nat.le_add_left 1 changes)
        rw [Nat.add_sub_cancel] at before
        have double : 16 * 2 ^ (changes + 1) = 2 * (16 * 2 ^ changes) := by
          rw [pow_succ]
          omega
        omega

/-! ## Many tokens -/

theorem Bounded.pushes (bounded : Bounded room changes buffer)
    (ordered : ∀ token ∈ tokens, token.start ≤ token.stop) :
    Bounded room (changes + buffer.roomChanges tokens) (tokens.foldl store buffer) := by
  induction tokens generalizing buffer changes with
  | nil => exact bounded
  | cons token tokens ih =>
      obtain ⟨first, others⟩ := List.forall_mem_cons.mp ordered
      simp only [roomChanges, after_ordered first, List.foldl_cons]
      by_cases within : buffer.size < buffer.capacity
      · have same : (buffer.store token).capacity = buffer.capacity := by
          rw [capacity_store, if_pos within]
        rw [if_pos same, Nat.zero_add]
        exact ih (bounded.store_within within token) others
      · have differs : (buffer.store token).capacity ≠ buffer.capacity := by
          rw [capacity_store, if_neg within]
          omega
        rw [if_neg differs, ← Nat.add_assoc]
        exact ih (bounded.store_full within token) others

private theorem capacity_le_foldl_store (buffer : TokenBuffer) (tokens : List Token) :
    buffer.capacity ≤ (tokens.foldl store buffer).capacity := by
  induction tokens generalizing buffer with
  | nil => exact Nat.le_refl _
  | cons token tokens ih =>
      have first : buffer.capacity ≤ (buffer.store token).capacity := by
        rw [capacity_store]
        split
        · exact Nat.le_refl _
        · exact Nat.le_add_right _ _
      exact Nat.le_trans first (ih _)

/-- Which tokens are appended plays no part for the room, only how many. -/
theorem capacity_foldl_store_congr {others : List Token} (sizes : left.size = right.size)
    (rooms : left.capacity = right.capacity) (lengths : tokens.length = others.length) :
    (tokens.foldl store left).capacity = (others.foldl store right).capacity := by
  induction tokens generalizing left right others with
  | nil =>
      cases List.eq_nil_of_length_eq_zero lengths.symm
      exact rooms
  | cons token tokens ih =>
      cases others with
      | nil => cases lengths
      | cons other others =>
          have tails : tokens.length = others.length := Nat.succ.inj lengths
          have stored : (left.store token).size = (right.store other).size := by
            rw [size_store, size_store, sizes]
          have grown : (left.store token).capacity = (right.store other).capacity := by
            rw [capacity_store, capacity_store, sizes, rooms]
          rw [List.foldl_cons, List.foldl_cons]
          exact ih stored grown tails

/-! ## Any requests -/

/-- Contents and room of a buffer that began empty with a room, after requests. -/
structure Tracked (room : Nat) (fresh : TokenBuffer) (requests : List BufferRequest) : Prop where
  contents : (fresh.serve requests).tokens.toList = requests.flatMap BufferRequest.stored
  singly : fresh.serve requests =
    fresh.serve ((requests.flatMap BufferRequest.stored).map BufferRequest.push)
  refused : ∀ token, token.stop < token.start →
    handle (.push token) (fresh.serve requests) =
        .error (.reversedToken token.start token.stop) (fresh.serve requests) ∧
      fresh.serve (requests ++ [.push token]) = fresh.serve requests
  fits : (fresh.serve requests).size ≤ (fresh.serve requests).capacity
  grows : ∀ earlier later, requests = earlier ++ later →
    (fresh.serve earlier).capacity ≤ (fresh.serve requests).capacity
  kept : (fresh.serve requests).size ≤ room → (fresh.serve requests).capacity = room
  determined : ∀ others, (fresh.serve others).size = (fresh.serve requests).size →
    (fresh.serve others).capacity = (fresh.serve requests).capacity
  upper : (fresh.serve requests).capacity ≤ max room (2 * (fresh.serve requests).size + 14)
  lower : ∀ changes, fresh.roomChanges (requests.flatMap BufferRequest.stored) = changes →
    1 ≤ changes → 16 * 2 ^ (changes - 1) ≤ (fresh.serve requests).capacity

private theorem size_serve (room : Nat) (requests : List BufferRequest) :
    ((⟨#[], room⟩ : TokenBuffer).serve requests).size =
      (requests.flatMap BufferRequest.stored).length := by
  rw [size, ← Array.length_toList, serve_eq, toList_foldl_store]
  rfl

private theorem stored_pushes (ordered : ∀ token ∈ tokens, token.start ≤ token.stop) :
    (tokens.map BufferRequest.push).flatMap BufferRequest.stored = tokens := by
  induction tokens with
  | nil => rfl
  | cons token tokens ih =>
      obtain ⟨first, others⟩ := List.forall_mem_cons.mp ordered
      simp only [List.map_cons, List.flatMap_cons, BufferRequest.stored, if_pos first, ih others,
        List.singleton_append]

private theorem tracked (room : Nat) (requests : List BufferRequest) :
    Tracked room ⟨#[], room⟩ requests := by
  have start : Bounded room 0 ⟨#[], room⟩ :=
    ⟨Nat.zero_le _, fun _ => rfl, Nat.le_max_left _ _, fun changed => absurd changed (by decide)⟩
  have ordered : ∀ token ∈ requests.flatMap BufferRequest.stored, token.start ≤ token.stop := by
    intro token added
    obtain ⟨request, _, stored⟩ := List.mem_flatMap.mp added
    exact ordered_of_stored stored
  have bounded := start.pushes ordered
  rw [Nat.zero_add, ← serve_eq] at bounded
  constructor
  case contents => rw [serve_eq, toList_foldl_store]; rfl
  case singly => rw [serve_eq, serve_eq, stored_pushes ordered]
  case refused =>
    intro token reversed
    refine ⟨push_reversed reversed _, ?_⟩
    rw [serve_append]
    exact after_reversed reversed _
  case fits => exact bounded.fits
  case grows =>
    intro earlier later parts
    rw [parts, serve_append, serve_eq (serve _ earlier)]
    exact capacity_le_foldl_store _ _
  case kept => exact bounded.kept
  case determined =>
    intro others sizes
    rw [size_serve, size_serve] at sizes
    rw [serve_eq, serve_eq]
    exact capacity_foldl_store_congr rfl rfl sizes
  case upper => exact bounded.upper
  case lower =>
    intro changes counted
    subst counted
    exact bounded.lower

/-- Whatever a token buffer is asked for, beginning with any room that storage can have, its
contents are the tokens that were not refused, and its room is bounded from both sides. -/
theorem serve_tracks_requests :
    withCapacity 0 = .ok empty ∧
      ∀ room, match withCapacity room with
        | .ok fresh => ∀ requests, Tracked room fresh requests
        | .error _ => maxStorage < room * tokenBytes := by
  refine ⟨rfl, ?_⟩
  intro room
  by_cases fits : room * tokenBytes ≤ maxStorage
  · simp only [withCapacity, if_pos fits]
    exact tracked room
  · simp only [withCapacity, if_neg fits]
    exact Nat.lt_of_not_le fits

example :
    [0, 1, 14, 15, 31, 32].map (fun count =>
      let pushes := List.replicate count (.push ⟨4, 9, .number⟩)
      (serve ⟨#[], 1⟩ (.push ⟨9, 4, .number⟩ :: .scan "x.y" :: pushes)).capacity) =
    [17, 17, 17, 34, 34, 68] := by
  decide +kernel

end TokenBuffer

end FormulaLexer
