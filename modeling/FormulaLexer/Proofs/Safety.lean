import FormulaLexer.Proofs.Scanning

/-!
# Scanning never faults

A scanner that stands between two characters of its source answers every request, and
stands between two characters afterwards. From the front of a source that fits, any number
of requests is therefore answered, also past the end. Reads outside the padded buffer,
offsets that do not fit and slices that reach into the padding are faults, and so are the
reads, cuts and sums of the readers that dates and words are handed to; an answer shows that
none of them took place. A cursor only moves ahead, so the bound on its place
behind a request holds all through the request.
-/

set_option autoImplicit false

namespace FormulaLexer

open Grammar (byteLength)

namespace Scanner

variable {buffer : SourceBuffer} {scanner : Scanner buffer}

/-- The scanner stands between two characters of a source that fits. -/
def Stands (scanner : Scanner buffer) : Prop :=
  ∃ behind ahead : List Char,
    scanner.cursor = .after behind ∧ buffer.Holds (behind ++ ahead)

/-- What a request that is answered may do: it ends inside the source, a token takes up
some of the source and can be stored, and once there is no token there never is one. -/
structure Steady (scanner : Scanner buffer) (answer : Option Token) (after : Scanner buffer) :
    Prop where
  bounded : after.cursor.position ≤ buffer.length
  progress : ∀ token, answer = some token →
    scanner.cursor.position < after.cursor.position
  storable : ∀ token, answer = some token →
    ∀ tokens, ∃ stored, TokenBuffer.push token tokens = .ok () stored
  ended : answer = none →
    after.diagnostics = scanner.diagnostics ∧
      ∀ more, after.take more =
        .ok (List.replicate more (none, scanner.diagnostics.size), after)

theorem stands_start {chars : List Char} (holds : buffer.Holds chars) : (start buffer).Stands :=
  ⟨[], chars, rfl, holds⟩

private theorem position_le_of_stands (stands : scanner.Stands) :
    scanner.cursor.position ≤ buffer.length := by
  obtain ⟨behind, ahead, place, holds⟩ := stands
  rw [place, holds.length, byteLength_append]
  exact Nat.le_add_right _ _

/-- A scanner that finds no token and stays where it is answers every request alike. -/
theorem take_of_rest (rests : scanner.next = .ok (none, scanner)) (more : Nat) :
    scanner.take more = .ok (List.replicate more (none, scanner.diagnostics.size), scanner) := by
  induction more with
  | zero => rfl
  | succ more ih =>
      rw [take, rests]
      simp only [bind, Except.bind, ih]
      rfl

/-- One request: a scanner between two characters answers it and stands between two
characters again. -/
theorem next_of_stands (stands : scanner.Stands) :
    ∃ answer after, scanner.next = .ok (answer, after) ∧ after.Stands ∧
      scanner.Steady answer after := by
  obtain ⟨cursor, diagnostics⟩ := scanner
  obtain ⟨behind, ahead, place, holds⟩ := stands
  cases place
  obtain ⟨skipped, rest, split⟩ : ∃ skipped rest, Grammar.splitTrivia ahead = (skipped, rest) :=
    ⟨_, _, rfl⟩
  cases rest with
  | nil =>
      have last : buffer.Holds (behind ++ ahead ++ []) := holds.pass (List.append_nil ahead)
      have reached : Stands ⟨.after (behind ++ ahead), diagnostics⟩ := ⟨_, [], rfl, last⟩
      have rests : (⟨.after (behind ++ ahead), diagnostics⟩ : Scanner buffer).next = _ :=
        next_done last (by rw [Grammar.splitTrivia])
      rw [List.append_nil] at rests
      refine ⟨_, _, next_done holds split, reached, ?_⟩
      refine ⟨position_le_of_stands reached, ?_, ?_, ?_⟩
      · intro token produced
        cases produced
      · intro token produced
        cases produced
      · intro _
        exact ⟨rfl, take_of_rest rests⟩
  | cons first rest =>
      have reached : Stands (pass (behind ++ skipped) diagnostics (Grammar.cut first rest)) :=
        ⟨_, _, rfl, (Grammar.append_of_step behind split).2 ▸ holds⟩
      have taken := byteLength_pos (Grammar.taken_append_rest first rest).2
      refine ⟨_, _, next_step holds split, reached, ?_⟩
      refine ⟨position_le_of_stands reached, ?_, ?_, ?_⟩
      · intro token produced
        simp only [pass, Cursor.after, byteLength_append]
        omega
      · intro token produced tokens
        cases produced
        exact ⟨_, TokenBuffer.push_ordered (Nat.le_add_right _ _) tokens⟩
      · intro finished
        cases finished

/-- Any number of requests is answered. -/
theorem take_of_stands (stands : scanner.Stands) (count : Nat) :
    ∃ answers last, scanner.take count = .ok (answers, last) ∧ last.Stands := by
  induction count generalizing scanner with
  | zero => exact ⟨[], scanner, rfl, stands⟩
  | succ count ih =>
      obtain ⟨answer, after, produced, reached, _⟩ := next_of_stands stands
      obtain ⟨answers, last, taken, standing⟩ := ih reached
      refine ⟨(answer, after.diagnostics.size) :: answers, last, ?_, standing⟩
      rw [take, produced]
      simp only [bind, Except.bind, taken]
      rfl

end Scanner

/-- The buffer of a source that fits has a zero behind the source. After any number of
requests to a new scanner, the next request is answered as well, and steadily. -/
theorem scanning_never_faults {source : String} (fits : source.utf8ByteSize ≤ maxOffset) :
    ∃ buffer, sourceBuffer source = .ok buffer ∧
      Cursor.byteAt buffer buffer.length = .ok 0 ∧
      ∀ count, ∃ answers scanner answer after,
        (Scanner.start buffer).take count = .ok (answers, scanner) ∧
        scanner.cursor.position ≤ buffer.length ∧
        scanner.next = .ok (answer, after) ∧
        scanner.Steady answer after := by
  obtain ⟨buffer, made, holds⟩ := sourceBuffer_eq_ok fits
  have padded : buffer.Holds (source.toList ++ []) := by
    rw [List.append_nil]
    exact holds
  refine ⟨buffer, made, ?_, ?_⟩
  · rw [holds.length]
    exact Cursor.current_after_nil padded
  · intro count
    obtain ⟨answers, scanner, taken, stands⟩ :=
      Scanner.take_of_stands (Scanner.stands_start holds) count
    obtain ⟨answer, after, produced, _, steady⟩ := Scanner.next_of_stands stands
    exact ⟨answers, scanner, answer, after, taken, Scanner.position_le_of_stands stands, produced,
      steady⟩

/-- A source with a zero in it that ends in the middle of a date and on a wide character. -/
theorem scanning_never_faults_cutOff :
    let source := "\x00 #1/\u00b2"
    source.utf8ByteSize ≤ maxOffset ∧
      ∃ buffer, sourceBuffer source = .ok buffer ∧
        Cursor.byteAt buffer buffer.length = .ok 0 ∧
        ∀ count, ∃ answers scanner answer after,
          (Scanner.start buffer).take count = .ok (answers, scanner) ∧
          scanner.cursor.position ≤ buffer.length ∧
          scanner.next = .ok (answer, after) ∧
          scanner.Steady answer after := by
  intro source
  have fits : source.utf8ByteSize ≤ maxOffset := by decide +kernel
  exact ⟨fits, scanning_never_faults fits⟩

end FormulaLexer
