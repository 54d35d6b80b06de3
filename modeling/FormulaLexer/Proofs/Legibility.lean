import FormulaLexer.Proofs.Extension
import FormulaLexer.Text.Escaped

/-!
# Legible forms

A way of writing values is legible when the front of a text shows which value was written there and
where its form ends, whatever comes behind. Forms written one behind the other stay legible. Numbers
and names become legible through a character that ends them and that they never hold, escaped text
through the quotes around it.
-/

set_option autoImplicit false

namespace FormulaLexer

/-- No written form can be taken for another one, nor for the beginning of another one. -/
def Legible {α : Type} (write : α → List Char) : Prop :=
  ∀ ⦃left right : α⦄ ⦃leftRest rightRest : List Char⦄,
    write left ++ leftRest = write right ++ rightRest → left = right ∧ leftRest = rightRest

/-- Two texts that agree up to and with a mark agree in front of it if neither has it there. -/
theorem append_mark_inj {mark : Char} {left right leftRest rightRest : List Char}
    (leftFree : mark ∉ left) (rightFree : mark ∉ right)
    (same : left ++ mark :: leftRest = right ++ mark :: rightRest) :
    left = right ∧ leftRest = rightRest := by
  obtain ⟨leftTaken, leftDropped⟩ := search_append leftFree leftRest
  obtain ⟨rightTaken, rightDropped⟩ := search_append rightFree rightRest
  rw [same] at leftTaken leftDropped
  constructor
  · exact leftTaken.symm.trans rightTaken
  · exact (List.cons.inj (leftDropped.symm.trans rightDropped)).2

namespace Legible

variable {α β : Type} {write : α → List Char}

/-- Forms that differ within their first characters, and all have that many. -/
theorem of_opening {length : Nat} (long : ∀ value, length ≤ (write value).length)
    (opening : ∀ left right, (write left).take length = (write right).take length → left = right) :
    Legible write := by
  intro left right leftRest rightRest same
  have openings := congrArg (List.take length) same
  rw [List.take_append_of_le_length (long left), List.take_append_of_le_length (long right)]
    at openings
  obtain rfl := opening left right openings
  exact ⟨rfl, List.append_cancel_left same⟩

theorem ended {mark : Char} (absent : ∀ value, mark ∉ write value)
    (injective : ∀ left right, write left = write right → left = right) :
    Legible fun value => write value ++ [mark] := by
  intro left right leftRest rightRest same
  simp only [List.append_assoc, List.singleton_append] at same
  obtain ⟨written, rests⟩ := append_mark_inj (absent left) (absent right) same
  exact ⟨injective left right written, rests⟩

theorem behind (legible : Legible write) (fixed : List Char) :
    Legible fun value => fixed ++ write value := by
  intro left right leftRest rightRest same
  simp only [List.append_assoc] at same
  exact legible (List.append_cancel_left same)

theorem ahead (legible : Legible write) (fixed : List Char) :
    Legible fun value => write value ++ fixed := by
  intro left right leftRest rightRest same
  simp only [List.append_assoc] at same
  obtain ⟨rfl, rests⟩ := legible same
  exact ⟨rfl, List.append_cancel_left rests⟩

/-- The second form may depend on the value of the first one, which is known by then. -/
theorem andThen (legible : Legible write) {next : α → β → List Char}
    (onward : ∀ value, Legible (next value)) :
    Legible fun pair : α × β => write pair.1 ++ next pair.1 pair.2 := by
  rintro ⟨left, leftNext⟩ ⟨right, rightNext⟩ leftRest rightRest same
  simp only [List.append_assoc] at same
  obtain ⟨rfl, nexts⟩ := legible same
  obtain ⟨rfl, rests⟩ := onward left nexts
  exact ⟨rfl, rests⟩

theorem comp (legible : Legible write) {view : β → α}
    (injective : ∀ left right, view left = view right → left = right) :
    Legible fun value => write (view value) := by
  intro left right leftRest rightRest same
  obtain ⟨views, rests⟩ := legible same
  exact ⟨injective left right views, rests⟩

/-- A sequence of forms is legible up to a place where no further form begins. -/
theorem sequence (legible : Legible write) {lefts rights : List α}
    {leftRest rightRest : List Char}
    (leftEnds : ∀ value onward, leftRest ≠ write value ++ onward)
    (rightEnds : ∀ value onward, rightRest ≠ write value ++ onward)
    (same : lefts.flatMap write ++ leftRest = rights.flatMap write ++ rightRest) :
    lefts = rights ∧ leftRest = rightRest := by
  induction lefts generalizing rights with
  | nil =>
      cases rights with
      | nil => exact ⟨rfl, same⟩
      | cons right rights =>
          rw [List.flatMap_cons, List.append_assoc] at same
          exact absurd same (leftEnds right _)
  | cons left lefts ih =>
      cases rights with
      | nil =>
          rw [List.flatMap_cons, List.append_assoc] at same
          exact absurd same.symm (rightEnds left _)
      | cons right rights =>
          simp only [List.flatMap_cons, List.append_assoc] at same
          obtain ⟨rfl, others⟩ := legible same
          obtain ⟨rfl, rests⟩ := ih others
          exact ⟨rfl, rests⟩

end Legible

/-! ## Numerals -/

section

variable {base number left right : Nat} {char : Char}

private theorem digit_of_mem_toDigits (large : 1 < base)
    (member : char ∈ Nat.toDigits base number) :
    ∃ digit < base, char = digit.digitChar := by
  induction number using Nat.strongRecOn with
  | ind number ih =>
      rw [Nat.toDigits_eq_if large] at member
      split at member
      · next small => exact ⟨number, small, List.mem_singleton.mp member⟩
      · next wide =>
          rcases List.mem_append.mp member with earlier | last
          · exact ih (number / base) (Nat.div_lt_self (by omega) large) earlier
          · exact ⟨number % base, Nat.mod_lt _ (by omega), List.mem_singleton.mp last⟩

private theorem digitChar_inj (leftSmall : left < 16) (rightSmall : right < 16)
    (same : left.digitChar = right.digitChar) : left = right := by
  have every : ∀ left < 16, ∀ right < 16, left.digitChar = right.digitChar → left = right := by
    decide
  exact every left leftSmall right rightSmall same

theorem toDigits_inj (large : 1 < base) (digits : base ≤ 16)
    (same : Nat.toDigits base left = Nat.toDigits base right) : left = right := by
  induction left using Nat.strongRecOn generalizing right with
  | ind left ih =>
      rw [Nat.toDigits_eq_if large, @Nat.toDigits_eq_if base right large] at same
      have last : ∀ number, number % base < 16 := by
        intro number
        exact Nat.lt_of_lt_of_le (Nat.mod_lt number (by omega)) digits
      split at same
      · next leftSmall =>
          split at same
          · next rightSmall =>
              exact digitChar_inj (by omega) (by omega) (List.singleton_inj.mp same)
          · have front := List.append_eq_singleton_iff.mp same.symm
            simp [Nat.toDigits_ne_nil] at front
      · next leftWide =>
          split at same
          · have front := List.append_eq_singleton_iff.mp same
            simp [Nat.toDigits_ne_nil] at front
          · obtain ⟨fronts, lasts⟩ := List.append_inj' same rfl
            have quotients := ih (left / base) (Nat.div_lt_self (by omega) large) fronts
            have remainders := digitChar_inj (last left) (last right) (List.singleton_inj.mp lasts)
            rw [← Nat.div_add_mod left base, quotients, remainders, Nat.div_add_mod]

theorem legible_toDigits {mark : Char} (large : 1 < base) (digits : base ≤ 16)
    (apart : ∀ digit < base, digit.digitChar ≠ mark) :
    Legible fun number => Nat.toDigits base number ++ [mark] := by
  apply Legible.ended
  · intro number member
    obtain ⟨digit, small, same⟩ := digit_of_mem_toDigits large member
    exact apart digit small same.symm
  · intro left right same
    exact toDigits_inj large digits same

end

/-! ## Escaped text -/

namespace Text

/-- The characters with an escape of their own, and the letter of that escape. -/
def shortEscapes : List (Char × Char) :=
  [('\x00', '0'), ('\t', 't'), ('\r', 'r'), ('\n', 'n'), ('"', '"'), ('\\', '\\')]

/-- The three sorts of forms that a character can have between quotes. -/
inductive EscapedAs (char : Char) : List Char → Prop where
  | short {letter : Char} : (char, letter) ∈ shortEscapes → EscapedAs char ['\\', letter]
  | codePoint : EscapedAs char (codePointEscape char)
  | plain : char ≠ '\n' → char ≠ '"' → char ≠ '\\' → EscapedAs char [char]

private theorem escapedAs_escapeChar (char : Char) : EscapedAs char (escapeChar char) := by
  unfold escapeChar
  split
  · next zero => subst zero; exact .short (by decide)
  split
  · next tab => subst tab; exact .short (by decide)
  split
  · next carriageReturn => subst carriageReturn; exact .short (by decide)
  split
  · next lineFeed => subst lineFeed; exact .short (by decide)
  split
  · next quote => subst quote; exact .short (by decide)
  split
  · next backslash => subst backslash; exact .short (by decide)
  split
  · exact .codePoint
  · next lineFeed quote backslash _ => exact .plain lineFeed quote backslash

private theorem codePointEscape_eq (char : Char) :
    codePointEscape char =
      ['\\', 'u', '\x7b'] ++ (Nat.toDigits 16 char.toNat ++ ['\x7d']) := by
  rw [codePointEscape, List.append_assoc]

private theorem short_inj {left right letter : Char} (leftShort : (left, letter) ∈ shortEscapes)
    (rightShort : (right, letter) ∈ shortEscapes) : left = right := by
  have letters : (shortEscapes.map (·.2)).Nodup := by decide
  exact congrArg Prod.fst (List.inj_on_of_nodup_map letters leftShort rightShort rfl)

private theorem short_ne_codePoint {char letter : Char} (short : (char, letter) ∈ shortEscapes) :
    letter ≠ 'u' := by
  have letters : 'u' ∉ shortEscapes.map (·.2) := by decide
  rintro rfl
  exact letters (List.mem_map_of_mem short)

private theorem legible_codePointEscape : Legible codePointEscape := by
  have digits : Legible fun number => Nat.toDigits 16 number ++ ['\x7d'] :=
    legible_toDigits (by decide) (by decide) (by decide)
  have codes := digits.comp fun (left right : Char) => Char.toNat_inj.mp
  have forms := codes.behind ['\\', 'u', '\x7b']
  simpa only [← codePointEscape_eq] using forms

private theorem legible_escapeChar : Legible escapeChar := by
  intro left right leftRest rightRest same
  have leftForm := escapedAs_escapeChar left
  have rightForm := escapedAs_escapeChar right
  generalize escapeChar left = leftWritten at leftForm same
  generalize escapeChar right = rightWritten at rightForm same
  cases leftForm with
  | @short leftLetter leftShort =>
      cases rightForm with
      | @short rightLetter rightShort =>
          simp only [List.cons_append, List.nil_append, List.cons.injEq, true_and] at same
          obtain ⟨rfl, rests⟩ := same
          exact ⟨short_inj leftShort rightShort, rests⟩
      | codePoint =>
          simp only [codePointEscape_eq, List.cons_append, List.cons.injEq, true_and] at same
          exact absurd same.1 (short_ne_codePoint leftShort)
      | plain _ _ backslash => exact absurd (List.cons.inj same).1.symm backslash
  | codePoint =>
      cases rightForm with
      | short rightShort =>
          simp only [codePointEscape_eq, List.cons_append, List.cons.injEq, true_and] at same
          exact absurd same.1.symm (short_ne_codePoint rightShort)
      | codePoint => exact legible_codePointEscape same
      | plain _ _ backslash => exact absurd (List.cons.inj same).1.symm backslash
  | plain _ _ backslash =>
      cases rightForm with
      | short => exact absurd (List.cons.inj same).1 backslash
      | codePoint => exact absurd (List.cons.inj same).1 backslash
      | plain => exact List.cons.inj same

/-- A quote inside is always behind a backslash, so the ending quote cannot begin a character. -/
theorem quote_ne_escapeChar (char : Char) (rest onward : List Char) :
    '"' :: rest ≠ escapeChar char ++ onward := by
  have form := escapedAs_escapeChar char
  generalize escapeChar char = written at form
  intro same
  cases form with
  | short => exact absurd (List.cons.inj same).1 (by decide)
  | codePoint => exact absurd (List.cons.inj same).1 (by decide)
  | plain _ quote => exact absurd (List.cons.inj same).1.symm quote

theorem lineFeed_not_mem_escapeChar (char : Char) : '\n' ∉ escapeChar char := by
  have form := escapedAs_escapeChar char
  generalize escapeChar char = written at form
  intro member
  cases form with
  | @short letter short =>
      have letters : '\n' ∉ shortEscapes.map (·.2) := by decide
      have same : '\n' = letter := by simpa using member
      exact letters (same ▸ List.mem_map_of_mem short)
  | codePoint =>
      have digit : '\n' ∈ Nat.toDigits 16 char.toNat := by simpa [codePointEscape] using member
      obtain ⟨value, small, same⟩ := digit_of_mem_toDigits (by decide) digit
      have every : ∀ value < 16, '\n' ≠ value.digitChar := by decide
      exact every value small same
  | plain lineFeed => exact lineFeed (List.mem_singleton.mp member).symm

theorem toList_escaped (text : String) :
    (escaped text).toList = '"' :: (text.toList.flatMap escapeChar ++ ['"']) := by
  rw [escaped, String.toList_ofList]
  rfl

theorem legible_escaped : Legible fun text => (escaped text).toList := by
  intro left right leftRest rightRest same
  simp only [toList_escaped, List.cons_append, List.append_assoc, List.nil_append, List.cons.injEq,
    true_and] at same
  have ends := fun rest char onward => quote_ne_escapeChar char rest onward
  obtain ⟨chars, rests⟩ := legible_escapeChar.sequence (ends leftRest) (ends rightRest) same
  exact ⟨String.toList_injective chars, (List.cons.inj rests).2⟩

end Text

end FormulaLexer
