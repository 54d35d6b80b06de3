import Mathlib.Algebra.Ring.Nat
import FormulaLexer.Proofs.Extension

/-!
# Dates and their texts

The text of a date has a place of fixed width for each number. Numbers are padded to that width, and
are written out in full when they are wider; the reader takes as many digits as a place has. So it
reads a date back exactly when every number keeps to its place, and a date with a wider number is
read as no date at all, never as another one.
-/

set_option autoImplicit false

namespace FormulaLexer

/-! ## Padded numbers -/

section

variable {width number left right : Nat} {char : Char} {digits leftRest rightRest : List Char}

theorem isDigit_of_mem_zeroPadded (member : char ∈ zeroPadded width number) :
    char.isDigit = true := by
  rcases List.mem_append.mp member with zero | digit
  · rw [List.eq_of_mem_replicate zero]
    decide
  · exact Nat.isDigit_of_mem_toDigits (by decide) (by decide) digit

theorem length_zeroPadded (positive : 0 < width) (small : number < 10 ^ width) :
    (zeroPadded width number).length = width := by
  have short := (Nat.length_toDigits_le_iff (by decide) positive).mpr small
  rw [zeroPadded, List.length_append, List.length_replicate]
  omega

theorem ofDigitChars_zeroPadded (width number : Nat) :
    Nat.ofDigitChars 10 (zeroPadded width number) 0 = number := by
  rw [zeroPadded, Nat.ofDigitChars_append, Nat.ofDigitChars_replicate_zero, Nat.mul_zero,
    Nat.ofDigitChars_ten_toDigits]

private theorem zeroPadded_inj (same : zeroPadded width left = zeroPadded width right) :
    left = right := by
  rw [← ofDigitChars_zeroPadded width left, same, ofDigitChars_zeroPadded]

theorem digit_bounds (numeric : char.isDigit = true) :
    '0'.toNat ≤ char.toNat ∧ char.toNat < '0'.toNat + 10 := by
  have bounds := Char.isDigit_iff_toNat.mp numeric
  exact ⟨bounds.1, Nat.lt_succ_of_le bounds.2⟩

private theorem ofDigitChars_cons_zero (char : Char) (digits : List Char) :
    Nat.ofDigitChars 10 (char :: digits) 0 =
      10 ^ digits.length * (char.toNat - '0'.toNat) + Nat.ofDigitChars 10 digits 0 := by
  rw [Nat.ofDigitChars_cons, Nat.ofDigitChars_eq_ofDigitChars_zero, Nat.mul_zero, Nat.zero_add]

private theorem ofDigitChars_lt (numeric : ∀ char ∈ digits, char.isDigit = true) :
    Nat.ofDigitChars 10 digits 0 < 10 ^ digits.length := by
  induction digits with
  | nil => decide
  | cons char digits ih =>
      obtain ⟨first, others⟩ := List.forall_mem_cons.mp numeric
      have digit : char.toNat - '0'.toNat ≤ 9 := by
        have bounds := digit_bounds first
        omega
      calc Nat.ofDigitChars 10 (char :: digits) 0
          = 10 ^ digits.length * (char.toNat - '0'.toNat) + Nat.ofDigitChars 10 digits 0 :=
            ofDigitChars_cons_zero char digits
        _ < 10 ^ digits.length * 9 + 10 ^ digits.length :=
            Nat.add_lt_add_of_le_of_lt (Nat.mul_le_mul_left _ digit) (ih others)
        _ = 10 ^ (char :: digits).length := by
            rw [List.length_cons, Nat.pow_succ, ← Nat.mul_succ]

/-- Digits of the same number and the same value are the same digits. -/
theorem ofDigitChars_inj {left right : List Char}
    (leftNumeric : ∀ char ∈ left, char.isDigit = true)
    (rightNumeric : ∀ char ∈ right, char.isDigit = true) (lengths : left.length = right.length)
    (values : Nat.ofDigitChars 10 left 0 = Nat.ofDigitChars 10 right 0) : left = right := by
  induction left generalizing right with
  | nil => exact (List.length_eq_zero_iff.mp lengths.symm).symm
  | cons char left ih =>
      cases right with
      | nil => cases lengths
      | cons other right =>
          obtain ⟨first, leftOthers⟩ := List.forall_mem_cons.mp leftNumeric
          obtain ⟨second, rightOthers⟩ := List.forall_mem_cons.mp rightNumeric
          have lengths := Nat.succ.inj lengths
          rw [ofDigitChars_cons_zero, ofDigitChars_cons_zero, lengths] at values
          have leftBound := ofDigitChars_lt leftOthers
          have rightBound := ofDigitChars_lt rightOthers
          rw [lengths] at leftBound
          have quotients := congrArg (· / 10 ^ right.length) values
          have remainders := congrArg (· % 10 ^ right.length) values
          simp only [Nat.mul_add_div (Nat.pow_pos (by decide : 0 < 10)),
            Nat.div_eq_of_lt leftBound, Nat.div_eq_of_lt rightBound, Nat.mul_add_mod,
            Nat.mod_eq_of_lt leftBound, Nat.mod_eq_of_lt rightBound, Nat.add_zero]
            at quotients remainders
          have same : char = other := by
            have firstBounds := digit_bounds first
            have secondBounds := digit_bounds second
            exact Char.toNat_inj.mp (by omega)
          rw [same, ih leftOthers rightOthers lengths remainders]

private theorem eq_zeroPadded (positive : 0 < digits.length)
    (numeric : ∀ char ∈ digits, char.isDigit = true) :
    digits = zeroPadded digits.length (Nat.ofDigitChars 10 digits 0) := by
  apply ofDigitChars_inj numeric
  · intro char member
    exact isDigit_of_mem_zeroPadded member
  · exact (length_zeroPadded positive (ofDigitChars_lt numeric)).symm
  · exact (ofDigitChars_zeroPadded _ _).symm

/-- A padded number of any width ends where its digits end. -/
theorem zeroPadded_append_inj (leftEnds : ∀ char ∈ leftRest.head?, char.isDigit = false)
    (rightEnds : ∀ char ∈ rightRest.head?, char.isDigit = false)
    (same : zeroPadded width left ++ leftRest = zeroPadded width right ++ rightRest) :
    left = right ∧ leftRest = rightRest := by
  have run : ∀ {number : Nat} {rest : List Char}, (∀ char ∈ rest.head?, char.isDigit = false) →
      (zeroPadded width number ++ rest).takeWhile Char.isDigit = zeroPadded width number := by
    intro number rest ends
    rw [(run_append fun _ => ends).1]
    exact List.takeWhile_eq_self_iff.mpr fun char member => isDigit_of_mem_zeroPadded member
  have written : zeroPadded width left = zeroPadded width right := by
    rw [← run leftEnds, same, run rightEnds]
  constructor
  · exact zeroPadded_inj written
  · rw [written] at same
    exact List.append_cancel_left same

private theorem zeroPadded_mark_inj {mark : Char} (apart : mark.isDigit = false)
    (same : zeroPadded width left ++ mark :: leftRest =
      zeroPadded width right ++ mark :: rightRest) :
    left = right ∧ leftRest = rightRest := by
  obtain ⟨numbers, marks⟩ :=
    zeroPadded_append_inj (by simpa using apart) (by simpa using apart) same
  exact ⟨numbers, (List.cons.inj marks).2⟩

end

/-! ## Readers -/

def ClockTime.InRange (time : ClockTime) : Prop :=
  time.hour ≤ 99 ∧ time.minute ≤ 99 ∧ time.second ≤ 99

instance (time : ClockTime) : Decidable time.InRange :=
  inferInstanceAs (Decidable (_ ∧ _))

namespace Date

/-- Every number of the date keeps to its place in a date text. -/
def InRange (date : Date) : Prop :=
  date.month ≤ 99 ∧ date.day ≤ 99 ∧ date.year ≤ 9999 ∧ ∀ time ∈ date.time, time.InRange

instance (date : Date) : Decidable date.InRange :=
  inferInstanceAs (Decidable (_ ∧ _))

section

variable {value count number : Nat} {chars rest : List Char} {date : Date}

private theorem digit?_eq_some_iff {char : Char} {digit : Nat} :
    digit? char = some digit ↔ char.isDigit = true ∧ char.toNat - '0'.toNat = digit := by
  simp [digit?]

private theorem digits?_eq_some_iff :
    digits? value count chars = some (number, rest) ↔
      ∃ digits, chars = digits ++ rest ∧ digits.length = count ∧
        (∀ char ∈ digits, char.isDigit = true) ∧ Nat.ofDigitChars 10 digits value = number := by
  fun_induction digits? value count chars with
  | case1 value chars =>
      constructor
      · intro read
        cases read
        exact ⟨[], rfl, rfl, by simp, rfl⟩
      · rintro ⟨digits, rfl, none, _, rfl⟩
        cases List.length_eq_zero_iff.mp none
        rfl
  | case2 value count char chars digit found ih =>
      obtain ⟨numeric, rfl⟩ := digit?_eq_some_iff.mp found
      rw [ih]
      constructor
      · rintro ⟨digits, rfl, length, others, worth⟩
        refine ⟨char :: digits, rfl, congrArg (· + 1) length, ?_, ?_⟩
        · exact List.forall_mem_cons.mpr ⟨numeric, others⟩
        · rw [Nat.ofDigitChars_cons]
          exact worth
      · rintro ⟨digits, parts, length, all, worth⟩
        cases digits with
        | nil => cases length
        | cons first digits =>
            obtain ⟨rfl, rfl⟩ := List.cons.inj parts
            rw [Nat.ofDigitChars_cons] at worth
            exact ⟨digits, rfl, Nat.succ.inj length, (List.forall_mem_cons.mp all).2, worth⟩
  | case3 value count char chars refused =>
      apply iff_of_false
      · simp
      · rintro ⟨digits, parts, length, all, _⟩
        cases digits with
        | nil => cases length
        | cons first digits =>
            obtain ⟨rfl, rfl⟩ := List.cons.inj parts
            have found := digit?_eq_some_iff.mpr ⟨(List.forall_mem_cons.mp all).1, rfl⟩
            cases refused.symm.trans found
  | case4 value count =>
      apply iff_of_false
      · simp
      · rintro ⟨digits, parts, length, _⟩
        rw [(List.append_eq_nil_iff.mp parts.symm).1] at length
        cases length

/-- What is read from a place is the number that fills the place when it is padded. -/
theorem digits?_eq_some_iff_zeroPadded (positive : 0 < count) :
    digits? 0 count chars = some (number, rest) ↔
      number < 10 ^ count ∧ chars = zeroPadded count number ++ rest := by
  rw [digits?_eq_some_iff]
  constructor
  · rintro ⟨digits, rfl, rfl, numeric, rfl⟩
    exact ⟨ofDigitChars_lt numeric, congrArg (· ++ rest) (eq_zeroPadded positive numeric)⟩
  · rintro ⟨small, rfl⟩
    exact ⟨_, rfl, length_zeroPadded positive small, fun _ => isDigit_of_mem_zeroPadded,
      ofDigitChars_zeroPadded count number⟩

private theorem two_digits?_eq_some_iff :
    digits? 0 2 chars = some (number, rest) ↔
      number ≤ 99 ∧ chars = zeroPadded 2 number ++ rest := by
  rw [digits?_eq_some_iff_zeroPadded (by decide)]
  exact and_congr_left' Nat.lt_succ_iff

private theorem four_digits?_eq_some_iff :
    digits? 0 4 chars = some (number, rest) ↔
      number ≤ 9999 ∧ chars = zeroPadded 4 number ++ rest := by
  rw [digits?_eq_some_iff_zeroPadded (by decide)]
  exact and_congr_left' Nat.lt_succ_iff

private theorem mark?_eq_some_iff {expected : Char} :
    mark? expected chars = some rest ↔ chars = expected :: rest := by
  cases chars with
  | nil => simp [mark?]
  | cons char chars => simp [mark?]

theorem clockTime?_eq_some_iff {time : ClockTime} :
    clockTime? chars = some (time, rest) ↔ time.InRange ∧ chars = time.render ++ rest := by
  simp only [clockTime?, Option.bind_eq_bind, Option.bind_eq_some_iff, Prod.exists,
    two_digits?_eq_some_iff, mark?_eq_some_iff, Option.pure_def, Option.some.injEq, Prod.mk.injEq]
  constructor
  · rintro ⟨hour, _, ⟨hourSmall, rfl⟩, _, rfl, minute, _, ⟨minuteSmall, rfl⟩, _, rfl, second, _,
      ⟨secondSmall, rfl⟩, rfl, rfl⟩
    exact ⟨⟨hourSmall, minuteSmall, secondSmall⟩, by simp [ClockTime.render]⟩
  · rintro ⟨⟨hourSmall, minuteSmall, secondSmall⟩, rfl⟩
    exact ⟨time.hour, _, ⟨hourSmall, by simp [ClockTime.render]⟩, _, rfl, time.minute, _,
      ⟨minuteSmall, rfl⟩, _, rfl, time.second, _, ⟨secondSmall, rfl⟩, rfl, rfl⟩

theorem day?_eq_some_iff :
    day? chars = some (date, rest) ↔
      date.time = none ∧ date.InRange ∧ chars = date.renderDay ++ rest := by
  simp only [day?, Option.bind_eq_bind, Option.bind_eq_some_iff, Prod.exists,
    two_digits?_eq_some_iff, four_digits?_eq_some_iff, mark?_eq_some_iff, Option.pure_def,
    Option.some.injEq, Prod.mk.injEq]
  constructor
  · rintro ⟨month, _, ⟨monthSmall, rfl⟩, _, rfl, day, _, ⟨daySmall, rfl⟩, _, rfl, year, _,
      ⟨yearSmall, rfl⟩, rfl, rfl⟩
    exact ⟨rfl, ⟨monthSmall, daySmall, yearSmall, by simp⟩, by simp [renderDay]⟩
  · obtain ⟨year, month, day, time⟩ := date
    rintro ⟨rfl, ⟨monthSmall, daySmall, yearSmall, _⟩, rfl⟩
    exact ⟨month, _, ⟨monthSmall, by simp [renderDay]⟩, _, rfl, day, _, ⟨daySmall, rfl⟩, _, rfl,
      year, _, ⟨yearSmall, rfl⟩, rfl, rfl⟩

theorem ofChars?_sound (read : ofChars? chars = some date) :
    date.InRange ∧ ∃ divider, isDivider divider = true ∧ chars = date.render divider := by
  unfold ofChars? at read
  split at read
  · next day found =>
      cases read
      obtain ⟨noTime, inRange, rfl⟩ := day?_eq_some_iff.mp found
      exact ⟨inRange, ' ', rfl, by simp [render, noTime]⟩
  · next day divider others found =>
      obtain ⟨noTime, ⟨monthSmall, daySmall, yearSmall, _⟩, rfl⟩ := day?_eq_some_iff.mp found
      split at read
      · next divides =>
          split at read
          · next time timeFound =>
              cases read
              obtain ⟨timeInRange, rfl⟩ := clockTime?_eq_some_iff.mp timeFound
              refine ⟨⟨monthSmall, daySmall, yearSmall, ?_⟩, divider, divides, ?_⟩
              · simpa using timeInRange
              · simp [render, renderDay]
          · cases read
      · cases read
  · cases read

private theorem day?_renderDay (inRange : date.InRange) (rest : List Char) :
    day? (date.renderDay ++ rest) = some ({ date with time := none }, rest) := by
  obtain ⟨monthSmall, daySmall, yearSmall, _⟩ := inRange
  exact day?_eq_some_iff.mpr ⟨rfl, ⟨monthSmall, daySmall, yearSmall, by simp⟩, rfl⟩

theorem ofChars?_render {divider : Char} (inRange : date.InRange)
    (divides : isDivider divider = true) : ofChars? (date.render divider) = some date := by
  have dayRead := day?_renderDay inRange
  obtain ⟨year, month, day, time⟩ := date
  cases time with
  | none => rw [ofChars?, render, dayRead]
  | some time =>
      have timeRead : clockTime? time.render = some (time, []) :=
        clockTime?_eq_some_iff.mpr ⟨inRange.2.2.2 time rfl, (List.append_nil _).symm⟩
      rw [ofChars?, render, dayRead]
      simp only [divides, ↓reduceIte, timeRead]

theorem ofChars?_eq_some_iff :
    ofChars? chars = some date ↔
      date.InRange ∧ ∃ divider, isDivider divider = true ∧ chars = date.render divider := by
  constructor
  · exact ofChars?_sound
  · rintro ⟨inRange, divider, divides, rfl⟩
    exact ofChars?_render inRange divides

end

end Date

/-! ## Forms -/

theorem ClockTime.render_inj {left right : ClockTime} (same : left.render = right.render) :
    left = right := by
  obtain ⟨hour, minute, second⟩ := left
  simp only [render, List.append_assoc, List.cons_append] at same
  obtain ⟨rfl, behindHour⟩ := zeroPadded_mark_inj (by decide) same
  obtain ⟨rfl, behindMinute⟩ := zeroPadded_mark_inj (by decide) behindHour
  obtain rfl := zeroPadded_inj behindMinute
  rfl

namespace Date

/-- What stands behind the day: nothing, or a divider and a time. -/
def renderTime (divider : Char) : Option ClockTime → List Char
  | none => []
  | some time => divider :: time.render

theorem render_eq (divider : Char) (date : Date) :
    date.render divider = date.renderDay ++ renderTime divider date.time := by
  rw [render]
  cases date.time with
  | none => rfl
  | some time => rfl

section

variable {divider other : Char}

private theorem not_isDigit_of_isDivider (divides : isDivider divider = true) :
    divider.isDigit = false := by
  rw [isDivider_eq, List.contains_iff_mem] at divides
  have apart : ∀ char ∈ [' ', '\t', '\n', '\x0b', '\x0c', '\r'], char.isDigit = false :=
    List.all_iff_forall_prop.mp (by decide)
  exact apart divider divides

private theorem renderTime_ends (divides : isDivider divider = true) (time : Option ClockTime) :
    ∀ char ∈ (renderTime divider time).head?, char.isDigit = false := by
  intro char next
  cases time with
  | none => cases next
  | some time =>
      cases next
      exact not_isDigit_of_isDivider divides

private theorem renderTime_inj {left right : Option ClockTime}
    (same : renderTime divider left = renderTime other right) : left = right := by
  cases left with
  | none =>
      cases right with
      | none => rfl
      | some time => cases same
  | some time =>
      cases right with
      | none => cases same
      | some otherTime => rw [ClockTime.render_inj (List.cons.inj same).2]

/-- No text is a form of two dates, whether or not their numbers keep to their places. -/
theorem render_inj {left right : Date} (divides : isDivider divider = true)
    (otherDivides : isDivider other = true) (same : left.render divider = right.render other) :
    left = right := by
  obtain ⟨year, month, day, time⟩ := left
  simp only [render_eq, renderDay, List.append_assoc, List.cons_append] at same
  obtain ⟨rfl, behindMonth⟩ := zeroPadded_mark_inj (by decide) same
  obtain ⟨rfl, behindDay⟩ := zeroPadded_mark_inj (by decide) behindMonth
  obtain ⟨rfl, behindYear⟩ := zeroPadded_append_inj (renderTime_ends divides time)
    (renderTime_ends otherDivides right.time) behindDay
  obtain rfl := renderTime_inj behindYear
  rfl

end

theorem ofText?_eq_some_iff (text : String) (date : Date) :
    ofText? text = some date ↔
      date.InRange ∧ ∃ divider ∈ [' ', '\t', '\n', '\x0b', '\x0c', '\r'],
        text = String.ofList (date.render divider) := by
  have form : ∀ divider, text.toList = date.render divider ↔
      text = String.ofList (date.render divider) := by
    intro divider
    rw [← String.toList_inj, String.toList_ofList]
  simp only [ofText?, ofChars?_eq_some_iff, isDivider_eq, List.contains_iff_mem, form]

theorem ofText?_display (date : Date) :
    ofText? date.display = if date.InRange then some date else none := by
  rw [ofText?, display, String.toList_ofList]
  split
  · next inRange => exact ofChars?_render inRange rfl
  · next outside =>
      cases read : ofChars? (date.render ' ') with
      | none => rfl
      | some other =>
          obtain ⟨inRange, divider, divides, same⟩ := ofChars?_sound read
          rw [render_inj rfl divides same] at outside
          exact absurd inRange outside

end Date

end FormulaLexer
