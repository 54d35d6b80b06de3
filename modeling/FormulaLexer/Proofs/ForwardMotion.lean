import FormulaLexer.Proofs.CursorMoves
import FormulaLexer.Source.Request

/-!
# Cursors only move forward

A cursor can be moved far behind the end of its source. The searches put it at the end of the
source, which for such a cursor would be a step back. They cut out the bytes ahead first, and that
faults for every cursor behind the end and for no other, so no request that is answered leads back,
and a cursor that has reached the end once is at the end for good.
-/

set_option autoImplicit false

namespace FormulaLexer

/-- What has to be the case for a fault of a cursor. No other fault can come from one. -/
def SourceBuffer.Justifies (buffer : SourceBuffer) : Fault → Prop
  | .readOutOfBounds index => buffer.bytes.size ≤ index
  | .offsetOverflow position => maxOffset < position
  | .searchOutOfBounds position => buffer.length < position
  | .reversedSlice start stop => stop < start
  | .sliceBeyondSource stop length => length = buffer.length ∧ length < stop
  | _ => False

namespace Cursor

variable {buffer : SourceBuffer} {cursor middle next last : Cursor buffer} {fault : Fault}
  {chars : List Char}

/-- A place that a cursor may come to: not behind its own, and an offset that fits if its own
does. -/
structure Ahead (cursor next : Cursor buffer) : Prop where
  forward : cursor.position ≤ next.position
  fits : cursor.position ≤ maxOffset → next.position ≤ maxOffset

theorem Ahead.refl (cursor : Cursor buffer) : Ahead cursor cursor :=
  ⟨Nat.le_refl _, id⟩

theorem Ahead.trans (first : Ahead cursor middle) (second : Ahead middle last) :
    Ahead cursor last :=
  ⟨Nat.le_trans first.forward second.forward, second.fits ∘ first.fits⟩

theorem Ahead.atEnd (ahead : Ahead cursor next) (ended : cursor.atEnd = true) :
    next.atEnd = true := by
  simp only [Cursor.atEnd, decide_eq_true_eq] at ended ⊢
  exact Nat.le_trans ended ahead.forward

/-! ## Where a request leads -/

private theorem ahead_of_advanceBy {count : Nat} (moved : cursor.advanceBy count = .ok next) :
    Ahead cursor next := by
  unfold advanceBy at moved
  split at moved
  · next fits =>
      cases moved
      exact ⟨Nat.le_add_right _ _, fun _ => fits⟩
  · cases moved

private theorem ahead_of_advanceChar (moved : cursor.advanceChar = .ok next) :
    Ahead cursor next := by
  unfold advanceChar at moved
  split at moved
  · cases moved
  · exact ahead_of_advanceBy moved

/-- Every round checks the place it goes to, so only a run of no bytes rests on where it began. -/
private theorem ahead_of_eatWhile {predicate : UInt8 → Bool}
    (moved : cursor.eatWhile predicate = .ok next) : Ahead cursor next := by
  refine ⟨position_le_of_eatWhile moved, ?_⟩
  fun_induction eatWhile predicate cursor with
  | case1 cursor inside holds fits ih =>
      intro _
      exact ih moved fits
  | case2 => cases moved
  | case3 =>
      cases moved
      exact id
  | case4 => cases moved

private theorem ahead_of_move {step : CursorMove} (moved : cursor.move step = .ok next) :
    Ahead cursor next := by
  cases step with
  | advance => exact ahead_of_advanceBy moved
  | advanceBy count => exact ahead_of_advanceBy moved
  | advanceChar => exact ahead_of_advanceChar moved
  | eatWhile predicate => exact ahead_of_eatWhile moved

/-- Both searches come down to one, which ends between the cursor and the end of the source. -/
theorem position_of_search {target : CursorSearch} {answer : CursorAnswer}
    (searched : cursor.search target = .ok (answer, next)) :
    cursor.position ≤ next.position ∧ next.position ≤ buffer.length := by
  cases target with
  | skipTo byte =>
      obtain ⟨⟨found, reached⟩, moved, same⟩ := map_eq_ok_iff.mp searched
      cases same
      exact position_of_skipTo moved
  | skipLine =>
      obtain ⟨reached, moved, same⟩ := map_eq_ok_iff.mp searched
      cases same
      obtain ⟨_, located⟩ := skipTo_of_skipLine moved
      exact position_of_skipTo located

/-- One request: the cursor does not move back. -/
theorem ahead_of_handle {request : CursorRequest} {answer : CursorAnswer}
    (bound : buffer.length ≤ maxOffset) (handled : cursor.handle request = .ok (answer, next)) :
    Ahead cursor next := by
  cases request with
  | read question =>
      obtain ⟨_, _, same⟩ := map_eq_ok_iff.mp handled
      cases same
      exact Ahead.refl cursor
  | move step =>
      obtain ⟨_, moved, same⟩ := map_eq_ok_iff.mp handled
      cases same
      exact ahead_of_move moved
  | search target =>
      have position := position_of_search handled
      exact ⟨position.1, fun _ => Nat.le_trans position.2 bound⟩

/-- Any number of requests. -/
theorem ahead_of_serve {requests : List CursorRequest} (bound : buffer.length ≤ maxOffset)
    (served : cursor.serve requests = .ok last) : Ahead cursor last := by
  induction requests generalizing cursor with
  | nil =>
      cases served
      exact Ahead.refl last
  | cons request requests ih =>
      rw [serve, List.foldlM_cons] at served
      obtain ⟨place, reached, rest⟩ := bind_eq_ok_iff.mp served
      obtain ⟨⟨answer, next⟩, handled, same⟩ := map_eq_ok_iff.mp reached
      cases same
      exact (ahead_of_handle bound handled).trans (ih rest)

/-! ## Why a request faults -/

private theorem justifies_of_byteAt {offset : Nat} (failed : byteAt buffer offset = .error fault) :
    buffer.Justifies fault := by
  unfold byteAt at failed
  split at failed
  · cases failed
  · next outside =>
      cases failed
      exact Nat.le_of_not_lt outside

private theorem justifies_of_slice {start stop : Nat}
    (failed : slice buffer start stop = .error fault) :
    buffer.Justifies fault := by
  unfold slice at failed
  split at failed
  · next reversed =>
      cases failed
      exact reversed
  · split at failed
    · next beyond =>
        cases failed
        exact ⟨rfl, beyond⟩
    · cases failed

private theorem justifies_of_advanceBy {count : Nat}
    (failed : cursor.advanceBy count = .error fault) :
    buffer.Justifies fault := by
  unfold advanceBy at failed
  split at failed
  · cases failed
  · next large =>
      cases failed
      exact Nat.lt_of_not_le large

private theorem justifies_of_advanceChar (failed : cursor.advanceChar = .error fault) :
    buffer.Justifies fault := by
  unfold advanceChar at failed
  split at failed
  · next unread =>
      cases failed
      exact justifies_of_byteAt unread
  · exact justifies_of_advanceBy failed

private theorem justifies_of_eatWhile {predicate : UInt8 → Bool}
    (failed : cursor.eatWhile predicate = .error fault) : buffer.Justifies fault := by
  fun_induction eatWhile predicate cursor with
  | case1 cursor inside holds fits ih => exact ih failed
  | case2 cursor inside holds large =>
      cases failed
      exact Nat.lt_of_not_le large
  | case3 => cases failed
  | case4 cursor outside =>
      cases failed
      exact Nat.le_of_not_lt outside

private theorem justifies_of_read {question : CursorQuestion}
    (failed : cursor.read question = .error fault) : buffer.Justifies fault := by
  cases question with
  | current => exact justifies_of_byteAt (map_eq_error_iff.mp failed)
  | peek => exact justifies_of_byteAt (map_eq_error_iff.mp failed)
  | peekSecond => exact justifies_of_byteAt (map_eq_error_iff.mp failed)
  | slice start stop => exact justifies_of_slice (map_eq_error_iff.mp failed)
  | sliceFrom start => exact justifies_of_slice (map_eq_error_iff.mp failed)
  | position => cases failed
  | atEnd => cases failed
  | sourceLength => cases failed
  | charWidth byte => cases failed

private theorem justifies_of_move {step : CursorMove} (failed : cursor.move step = .error fault) :
    buffer.Justifies fault := by
  cases step with
  | advance => exact justifies_of_advanceBy failed
  | advanceBy count => exact justifies_of_advanceBy failed
  | advanceChar => exact justifies_of_advanceChar failed
  | eatWhile predicate => exact justifies_of_eatWhile failed

/-- A search faults for one reason. The sum with which it moves to a byte that was found stays
inside the source, so it is no other. -/
theorem fault_of_skipTo {byte : UInt8} (holds : buffer.Holds chars)
    (failed : cursor.skipTo byte = .error fault) :
    fault = .searchOutOfBounds cursor.position ∧ buffer.length < cursor.position := by
  have padded := length_lt_size_of_holds holds
  have bound := holds.length_le_maxOffset
  unfold skipTo at failed
  split at failed
  · split at failed
    · next offset located =>
        have bounds := findByte?_bounds located
        rw [map_eq_error_iff, advanceBy, if_pos (by omega)] at failed
        cases failed
    · cases failed
  · next outside =>
      cases failed
      exact ⟨rfl, by omega⟩

private theorem fault_of_search {target : CursorSearch} (holds : buffer.Holds chars)
    (failed : cursor.search target = .error fault) :
    fault = .searchOutOfBounds cursor.position ∧ buffer.length < cursor.position := by
  cases target with
  | skipTo byte => exact fault_of_skipTo holds (map_eq_error_iff.mp failed)
  | skipLine =>
      exact fault_of_skipTo holds (map_eq_error_iff.mp (map_eq_error_iff.mp failed))

/-! ## All requests -/

/-- What a request that is answered does to the place of a cursor. -/
structure Onward (request : CursorRequest) (cursor next : Cursor buffer) : Prop where
  forward : cursor.position ≤ next.position
  fits : next.position ≤ maxOffset
  ended : cursor.atEnd = true → next.atEnd = true
  still : ∀ question, request = .read question → next = cursor
  within : ∀ target, request = .search target → next.position ≤ buffer.length

/-- What is the case when a request faults: the fault says so itself, and a search was asked of a
cursor behind the end of the source. -/
structure Blocked (request : CursorRequest) (cursor : Cursor buffer) (fault : Fault) : Prop where
  justified : buffer.Justifies fault
  behind : ∀ target, request = .search target → buffer.length < cursor.position

private theorem onward_of_handle {request : CursorRequest} {answer : CursorAnswer}
    (bound : buffer.length ≤ maxOffset) (fits : cursor.position ≤ maxOffset)
    (handled : cursor.handle request = .ok (answer, next)) : Onward request cursor next := by
  have ahead := ahead_of_handle bound handled
  refine ⟨ahead.forward, ahead.fits fits, ahead.atEnd, ?_, ?_⟩
  · rintro question rfl
    obtain ⟨_, _, same⟩ := map_eq_ok_iff.mp handled
    cases same
    rfl
  · rintro target rfl
    exact (position_of_search handled).2

private theorem blocked_of_handle {request : CursorRequest} (holds : buffer.Holds chars)
    (failed : cursor.handle request = .error fault) : Blocked request cursor fault := by
  cases request with
  | read question =>
      refine ⟨justifies_of_read (map_eq_error_iff.mp failed), ?_⟩
      intro target search
      cases search
  | move step =>
      refine ⟨justifies_of_move (map_eq_error_iff.mp failed), ?_⟩
      intro target search
      cases search
  | search target =>
      obtain ⟨rfl, behind⟩ := fault_of_search holds failed
      exact ⟨behind, fun _ _ => behind⟩

end Cursor

/-- Whatever a cursor of a source was asked for, beginning at the front: the next request either
faults, and for a reason, or leaves the cursor at its place or ahead of it, and at the end of the
source if it has been there. A search that is answered ends inside the source, and it faults for
the cursors behind the end only. Over any number of further requests the cursor does not come
back either. -/
theorem Cursor.requests_move_forward (source : String) :
    match SourceBuffer.ofText source with
    | .ok buffer =>
      buffer.length = source.utf8ByteSize ∧
        ∀ requests cursor, (Cursor.start buffer).serve requests = .ok cursor →
          (∀ request, match cursor.handle request with
            | .ok (_, next) => Onward request cursor next
            | .error fault => Blocked request cursor fault) ∧
          ∀ further last, cursor.serve further = .ok last →
            cursor.position ≤ last.position ∧ (cursor.atEnd = true → last.atEnd = true)
    | .error _ => maxOffset < source.utf8ByteSize := by
  cases made : SourceBuffer.ofText source with
  | error error =>
      by_contra fits
      obtain ⟨buffer, remade, _⟩ := SourceBuffer.ofText_eq_ok (Nat.le_of_not_lt fits)
      cases made.symm.trans remade
  | ok buffer =>
      have holds := SourceBuffer.holds_of_ofText made
      have bound := holds.length_le_maxOffset
      refine ⟨holds.length.trans (byteLength_toList source), ?_⟩
      intro requests cursor served
      have fits := (ahead_of_serve bound served).fits (Nat.zero_le _)
      constructor
      · intro request
        split
        · next answer next handled => exact onward_of_handle bound fits handled
        · next fault failed => exact blocked_of_handle holds failed
      · intro further last continued
        have ahead := ahead_of_serve bound continued
        exact ⟨ahead.forward, ahead.atEnd⟩

-- One byte behind the end a search would lead back, and a run over all bytes leaves the padding.
example :
    (SourceBuffer.ofText "a\nb").toOption.map (fun buffer =>
      [[.search .skipLine], [.search (.skipTo 0x78)], [.move (.advanceBy 3), .search .skipLine],
        [.move (.advanceBy 4)], [.move (.advanceBy 4), .search .skipLine],
        [.move (.eatWhile fun _ => true)]].map fun requests =>
          ((Cursor.start buffer).serve requests).toOption.map Cursor.position) =
    some [some 1, some 3, some 3, some 4, none, none] := by
  decide +kernel

end FormulaLexer
