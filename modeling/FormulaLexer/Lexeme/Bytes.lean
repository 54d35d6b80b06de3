import FormulaLexer.Lexeme.Mark
import FormulaLexer.Source.Cursor

/-!
# Lexemes in a buffer

What a cursor finds under itself, and the moves that take it past trivia, words and
quoted text. Every loop here goes forward, so a scan always comes to an end.
-/

set_option autoImplicit false
set_option linter.unusedVariables false

namespace FormulaLexer

def asciiChar? (byte : UInt8) : Option Char :=
  if byte < 0x80 then some (Char.ofUInt8 byte) else none

namespace Cursor

variable {buffer : SourceBuffer}

/-! ## What stands under the cursor -/

def isBlankByte (byte : UInt8) : Bool :=
  (asciiChar? byte).any isBlank

/-- Whether a byte is an ASCII character that ends a word. -/
def isSeparatorByte (byte : UInt8) : Bool :=
  (asciiChar? byte).any isAsciiSeparator

def isNumberByte (byte : UInt8) : Bool :=
  (asciiChar? byte).any fun char => char.isDigit || char == '.'

def apostropheByte : UInt8 := '\x27'.toUInt8

def quoteByte : UInt8 := '"'.toUInt8

/-- The byte of the mark around a date. -/
def dateMarkByte : UInt8 := '#'.toUInt8

def superscriptTwoLead : UInt8 := 0xC2

def superscriptTwoTail : UInt8 := 0xB2

def atSuperscriptTwo (cursor : Cursor buffer) : Except Fault Bool := do
  if (← cursor.current) = superscriptTwoLead then
    return (← cursor.peek) == superscriptTwoTail
  else return false

/-- The mark under the cursor, and how many bytes its first character has. -/
def mark? (cursor : Cursor buffer) : Except Fault (Option (Mark × Nat)) := do
  if ← cursor.atSuperscriptTwo then
    return (Mark.ofChar? Mark.superscriptTwo).map fun mark => (mark, 2)
  else
    return ((asciiChar? (← cursor.current)).bind Mark.ofChar?).map fun mark => (mark, 1)

/-- Whether the cursor stands on a character that ends a word. -/
def atSeparator (cursor : Cursor buffer) : Except Fault Bool := do
  if isSeparatorByte (← cursor.current) then return true
  else cursor.atSuperscriptTwo

/-! ## Loops -/

theorem remaining_lt {cursor next : Cursor buffer} (before : ¬ cursor.atEnd = true)
    (later : cursor.position < next.position) : next.remaining < cursor.remaining := by
  simp only [atEnd, decide_eq_true_eq] at before
  simp only [remaining]
  omega

/-- Moves past blanks and comments; a comment goes up to, and not including, the line
feed behind it. -/
def skipTrivia (cursor : Cursor buffer) : Except Fault (Cursor buffer) :=
  if done : cursor.atEnd then .ok cursor
  else
    match read : cursor.current with
    | .error fault => .error fault
    | .ok byte =>
      if blank : isBlankByte byte then
        match moved : cursor.eatWhile isBlankByte with
        | .error fault => .error fault
        | .ok next => next.skipTrivia
      else if comment : byte = apostropheByte then
        match moved : cursor.skipLine with
        | .error fault => .error fault
        | .ok next => next.skipTrivia
      else .ok cursor
termination_by cursor.remaining
decreasing_by
  · exact remaining_lt done (position_lt_of_eatWhile read blank moved)
  · exact remaining_lt done (position_lt_of_skipLine done read (by rw [comment]; decide) moved)

/-- Moves past the characters up to the next one that ends a word. -/
def skipWord (cursor : Cursor buffer) : Except Fault (Cursor buffer) :=
  if done : cursor.atEnd then .ok cursor
  else
    match cursor.atSeparator with
    | .error fault => .error fault
    | .ok true => .ok cursor
    | .ok false =>
      match moved : cursor.advanceChar with
      | .error fault => .error fault
      | .ok next => next.skipWord
termination_by cursor.remaining
decreasing_by exact remaining_lt done (position_lt_of_advanceChar moved)

/-- Moves past the quote that ends a literal whose opening quote lies behind. Pairs
of quotes are stepped over. Tells whether an ending quote was there. -/
def closeQuote (cursor : Cursor buffer) : Except Fault (Bool × Cursor buffer) :=
  match searched : cursor.skipTo quoteByte with
  | .error fault => .error fault
  | .ok (false, last) => .ok (false, last)
  | .ok (true, closing) =>
    match moved : closing.advance with
    | .error fault => .error fault
    | .ok after =>
      match after.current with
      | .error fault => .error fault
      | .ok byte =>
        if byte = quoteByte then
          match stepped : after.advance with
          | .error fault => .error fault
          | .ok next => next.closeQuote
        else .ok (true, after)
termination_by cursor.remaining
decreasing_by
  have bounds := position_of_skipTo searched
  have inside := position_lt_of_found searched
  have first := position_of_advance moved
  have second := position_of_advance stepped
  simp only [remaining]
  omega

/-! ## Loops, step by step -/

section Steps

variable {cursor next closing last : Cursor buffer} {byte : UInt8}

theorem skipTrivia_done (done : cursor.atEnd = true) : cursor.skipTrivia = .ok cursor := by
  rw [skipTrivia, dif_pos done]

theorem skipTrivia_blank (inside : ¬ cursor.atEnd = true) (read : cursor.current = .ok byte)
    (blank : isBlankByte byte = true) (moved : cursor.eatWhile isBlankByte = .ok next) :
    cursor.skipTrivia = next.skipTrivia := by
  rw [skipTrivia, dif_neg inside]
  split
  · next failed => cases read.symm.trans failed
  · next again =>
      cases read.symm.trans again
      rw [dif_pos blank]
      split
      · next failed => cases moved.symm.trans failed
      · next repeated => cases moved.symm.trans repeated; rfl

theorem skipTrivia_comment (inside : ¬ cursor.atEnd = true)
    (read : cursor.current = .ok apostropheByte) (moved : cursor.skipLine = .ok next) :
    cursor.skipTrivia = next.skipTrivia := by
  rw [skipTrivia, dif_neg inside]
  split
  · next failed => cases read.symm.trans failed
  · next again =>
      cases read.symm.trans again
      rw [dif_neg (by decide), dif_pos rfl]
      split
      · next failed => cases moved.symm.trans failed
      · next repeated => cases moved.symm.trans repeated; rfl

theorem skipTrivia_stop (read : cursor.current = .ok byte) (solid : isBlankByte byte = false)
    (differs : byte ≠ apostropheByte) : cursor.skipTrivia = .ok cursor := by
  rw [skipTrivia]
  split
  · rfl
  · split
    · next failed => cases read.symm.trans failed
    · next again =>
        cases read.symm.trans again
        rw [dif_neg (by simp [solid]), dif_neg differs]

theorem skipWord_done (done : cursor.atEnd = true) : cursor.skipWord = .ok cursor := by
  rw [skipWord, dif_pos done]

theorem skipWord_stop (separates : cursor.atSeparator = .ok true) :
    cursor.skipWord = .ok cursor := by
  rw [skipWord, separates]
  split <;> rfl

theorem skipWord_step (inside : ¬ cursor.atEnd = true) (joins : cursor.atSeparator = .ok false)
    (moved : cursor.advanceChar = .ok next) : cursor.skipWord = next.skipWord := by
  rw [skipWord, dif_neg inside, joins]
  simp only
  split
  · next failed => cases moved.symm.trans failed
  · next repeated => cases moved.symm.trans repeated; rfl

theorem closeQuote_missing (searched : cursor.skipTo quoteByte = .ok (false, last)) :
    cursor.closeQuote = .ok (false, last) := by
  rw [closeQuote]
  split
  · next failed => cases searched.symm.trans failed
  · next again => cases searched.symm.trans again; rfl
  · next again => cases searched.symm.trans again

theorem closeQuote_found (searched : cursor.skipTo quoteByte = .ok (true, closing))
    (moved : closing.advance = .ok last) (read : last.current = .ok byte)
    (differs : byte ≠ quoteByte) : cursor.closeQuote = .ok (true, last) := by
  rw [closeQuote]
  split
  · next failed => cases searched.symm.trans failed
  · next again => cases searched.symm.trans again
  · next again =>
      cases searched.symm.trans again
      split
      · next failed => cases moved.symm.trans failed
      · next repeated =>
          cases moved.symm.trans repeated
          rw [read]
          simp only [differs, ↓reduceIte]

theorem closeQuote_pair (searched : cursor.skipTo quoteByte = .ok (true, closing))
    (moved : closing.advance = .ok last) (read : last.current = .ok quoteByte)
    (stepped : last.advance = .ok next) : cursor.closeQuote = next.closeQuote := by
  rw [closeQuote]
  split
  · next failed => cases searched.symm.trans failed
  · next again => cases searched.symm.trans again
  · next again =>
      cases searched.symm.trans again
      split
      · next failed => cases moved.symm.trans failed
      · next repeated =>
          cases moved.symm.trans repeated
          rw [read]
          simp only [↓reduceIte]
          split
          · next failed => cases stepped.symm.trans failed
          · next twice => cases stepped.symm.trans twice; rfl

end Steps

/-! ## Progress -/

theorem position_le_of_skipTrivia {cursor next : Cursor buffer}
    (moved : cursor.skipTrivia = .ok next) : cursor.position ≤ next.position := by
  fun_induction skipTrivia cursor with
  | case1 => cases moved; exact Nat.le_refl _
  | case2 => cases moved
  | case3 => cases moved
  | case4 cursor _ byte read blank after stepped ih =>
      have first := position_lt_of_eatWhile read blank stepped
      have rest := ih moved
      omega
  | case5 => cases moved
  | case6 cursor done after stepped read _ ih =>
      have first := position_lt_of_skipLine done read (by decide) stepped
      have rest := ih moved
      omega
  | case7 => cases moved; exact Nat.le_refl _

/-- Trivia ends at the end of the source, or where a token begins. -/
theorem stop_of_skipTrivia {cursor next : Cursor buffer}
    (moved : cursor.skipTrivia = .ok next) :
    next.atEnd = true ∨
      ∃ byte, next.current = .ok byte ∧ isBlankByte byte = false ∧ byte ≠ apostropheByte := by
  fun_induction skipTrivia cursor with
  | case1 cursor done => cases moved; exact .inl done
  | case2 => cases moved
  | case3 => cases moved
  | case4 cursor _ byte read blank after stepped ih => exact ih moved
  | case5 => cases moved
  | case6 cursor done after stepped read _ ih => exact ih moved
  | case7 cursor _ byte read solid noComment =>
      cases moved
      exact .inr ⟨byte, read, by simpa using solid, noComment⟩

theorem position_le_of_skipWord {cursor next : Cursor buffer}
    (moved : cursor.skipWord = .ok next) : cursor.position ≤ next.position := by
  fun_induction skipWord cursor with
  | case1 => cases moved; exact Nat.le_refl _
  | case2 => cases moved
  | case3 => cases moved; exact Nat.le_refl _
  | case4 => cases moved
  | case5 cursor _ _ after stepped ih =>
      have first := position_lt_of_advanceChar stepped
      have rest := ih moved
      omega

/-- A word that does not begin with a separator is not empty. -/
theorem position_lt_of_skipWord {cursor next : Cursor buffer} (inside : ¬ cursor.atEnd = true)
    (begins : cursor.atSeparator = .ok false) (moved : cursor.skipWord = .ok next) :
    cursor.position < next.position := by
  rw [skipWord, dif_neg inside, begins] at moved
  simp only at moved
  split at moved
  · cases moved
  · next after stepped =>
      have first := position_lt_of_advanceChar stepped
      have rest := position_le_of_skipWord moved
      omega

theorem position_le_of_closeQuote {cursor next : Cursor buffer} {closed : Bool}
    (moved : cursor.closeQuote = .ok (closed, next)) : cursor.position ≤ next.position := by
  fun_induction closeQuote cursor with
  | case1 => cases moved
  | case2 cursor last searched =>
      cases moved
      exact (position_of_skipTo searched).1
  | case3 => cases moved
  | case4 => cases moved
  | case5 => cases moved
  | case6 cursor closing searched after stepped second steppedAgain _ ih =>
      have found := (position_of_skipTo searched).1
      have first := position_of_advance stepped
      have pair := position_of_advance steppedAgain
      have rest := ih moved
      omega
  | case7 cursor closing searched after stepped =>
      cases moved
      have found := (position_of_skipTo searched).1
      have first := position_of_advance stepped
      omega

theorem width_pos_of_mark {cursor : Cursor buffer} {mark : Mark} {width : Nat}
    (found : cursor.mark? = .ok (some (mark, width))) : 0 < width := by
  obtain ⟨superscript, _, rest⟩ := bind_eq_ok_iff.mp found
  split at rest
  · simp only [pure, Except.pure, Except.ok.injEq, Option.map_eq_some_iff, Prod.mk.injEq] at rest
    obtain ⟨_, _, _, width⟩ := rest
    omega
  · obtain ⟨byte, _, rest⟩ := bind_eq_ok_iff.mp rest
    simp only [pure, Except.pure, Except.ok.injEq, Option.map_eq_some_iff, Prod.mk.injEq] at rest
    obtain ⟨_, _, _, width⟩ := rest
    omega

/-- Where neither a blank nor a mark stands, no word ends: the separators are covered by
the blanks and the marks. -/
theorem atSeparator_of_no_mark {cursor : Cursor buffer} {byte : UInt8}
    (read : cursor.current = .ok byte) (solid : isBlankByte byte = false)
    (noMark : cursor.mark? = .ok none) : cursor.atSeparator = .ok false := by
  obtain ⟨superscript, tested, rest⟩ := bind_eq_ok_iff.mp noMark
  cases superscript with
  | true =>
      have known : (Mark.ofChar? Mark.superscriptTwo).isSome = true := by decide
      simp only [↓reduceIte, pure, Except.pure, Except.ok.injEq, Option.map_eq_none_iff] at rest
      simp [rest] at known
  | false =>
      have ordinary : isSeparatorByte byte = false := by
        simp only [read, bind, Except.bind, Bool.false_eq_true, ↓reduceIte, pure, Except.pure,
          Except.ok.injEq, Option.map_eq_none_iff] at rest
        unfold isSeparatorByte
        unfold isBlankByte at solid
        cases ascii : asciiChar? byte with
        | none => rfl
        | some char =>
            rw [ascii] at rest solid
            have separators := isSeparator_eq char
            simp only [Option.bind_some] at rest
            simp only [Option.any_some] at solid ⊢
            simp only [solid, rest, Option.isSome_none, Bool.or_self] at separators
            simp only [isSeparator, Bool.or_eq_false_iff] at separators
            exact separators.1
      simp [atSeparator, read, bind, Except.bind, ordinary, tested]

end Cursor

end FormulaLexer
