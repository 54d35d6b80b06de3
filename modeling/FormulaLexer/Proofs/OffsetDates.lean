import FormulaLexer.Proofs.Dates
import FormulaLexer.Proofs.OffsetReaders

/-!
# Dates by offsets

The reader of dates looks at fixed places of ten or of nineteen bytes. It follows the reader that
takes characters from the front of a text, field by field, and every number it computes fits into
the bits it has. Bytes stand for characters here, which is no loss: dates are written in ASCII. So
it reads a text as a date just if the text displays that date.
-/

set_option autoImplicit false

namespace FormulaLexer

/-! ## Lengths and characters -/

private theorem ClockTime.length_render {time : ClockTime} (inRange : time.InRange) :
    time.render.length = 8 := by
  obtain ⟨hourSmall, minuteSmall, secondSmall⟩ := inRange
  simp only [render, List.length_append, List.length_cons]
  rw [length_zeroPadded (by decide) (by omega), length_zeroPadded (by decide) (by omega),
    length_zeroPadded (by decide) (by omega)]

private theorem ascii_zeroPadded (width number : Nat) :
    ∀ char ∈ zeroPadded width number, char.toNat < 128 := by
  intro char member
  have bounds := digit_bounds (isDigit_of_mem_zeroPadded member)
  exact Nat.lt_trans bounds.2 (by decide)

private theorem ClockTime.ascii_render (time : ClockTime) :
    ∀ char ∈ time.render, char.toNat < 128 := by
  simp only [render, List.forall_mem_append, List.forall_mem_cons]
  exact ⟨⟨ascii_zeroPadded _ _, by decide, ascii_zeroPadded _ _⟩, by decide, ascii_zeroPadded _ _⟩

namespace Date

variable {date : Date} {chars : List Char}

private theorem length_renderDay (inRange : date.InRange) : date.renderDay.length = 10 := by
  obtain ⟨monthSmall, daySmall, yearSmall, _⟩ := inRange
  simp only [renderDay, List.length_append, List.length_cons]
  rw [length_zeroPadded (by decide) (by omega), length_zeroPadded (by decide) (by omega),
    length_zeroPadded (by decide) (by omega)]

private theorem length_of_ofChars? (read : ofChars? chars = some date) :
    chars.length = 10 ∨ chars.length = 19 := by
  obtain ⟨inRange, divider, _, rfl⟩ := ofChars?_sound read
  have front := length_renderDay inRange
  rw [render_eq, List.length_append, front]
  cases time : date.time with
  | none => exact .inl rfl
  | some time' =>
      right
      rw [renderTime, List.length_cons, ClockTime.length_render (inRange.2.2.2 time' time)]

private theorem ascii_renderDay (date : Date) : ∀ char ∈ date.renderDay, char.toNat < 128 := by
  simp only [renderDay, List.forall_mem_append, List.forall_mem_cons]
  exact ⟨⟨ascii_zeroPadded _ _, by decide, ascii_zeroPadded _ _⟩, by decide, ascii_zeroPadded _ _⟩

private theorem ascii_of_isDivider {char : Char} (divides : isDivider char = true) :
    char.toNat < 128 := by
  simp only [isDivider, Bool.or_eq_true, Bool.and_eq_true, beq_iff_eq, decide_eq_true_eq] at divides
  rcases divides with rfl | ⟨_, low⟩
  · decide
  · exact Nat.lt_of_le_of_lt low (by decide)

/-- Dates are written in ASCII. -/
theorem ascii_of_ofChars? (read : ofChars? chars = some date) :
    ∀ char ∈ chars, char.toNat < 128 := by
  obtain ⟨-, divider, divides, rfl⟩ := ofChars?_sound read
  have blank := ascii_of_isDivider divides
  rw [render, List.forall_mem_append]
  refine ⟨ascii_renderDay date, ?_⟩
  split
  · exact fun _ => List.not_mem_nil.elim
  · next time _ => exact List.forall_mem_cons.mpr ⟨blank, time.ascii_render⟩

end Date

namespace Offsets

/-! ## Readers that go together -/

section

variable {α β γ δ : Type}

/-- A reader that may fault goes along with one that cannot: it does not fault, gives up just when
the other does, and otherwise their values are related. -/
def Follows (related : α → γ → Prop) (reader : OptionT (Except Fault) α) (model : Option γ) :
    Prop :=
  (reader.run = .ok none ∧ model = none) ∨
    ∃ value known, reader.run = .ok (some value) ∧ model = some known ∧ related value known

private theorem run_bind_none {reader : OptionT (Except Fault) α} (refused : reader.run = .ok none)
    (next : α → OptionT (Except Fault) β) : (reader >>= next).run = .ok none := by
  rw [OptionT.run_bind, refused]
  rfl

private theorem run_bind_some {reader : OptionT (Except Fault) α} {value : α}
    (read : reader.run = .ok (some value)) (next : α → OptionT (Except Fault) β) :
    (reader >>= next).run = (next value).run := by
  rw [OptionT.run_bind, read]
  rfl

theorem Follows.bind {related : α → γ → Prop} {later : β → δ → Prop}
    {reader : OptionT (Except Fault) α} {next : α → OptionT (Except Fault) β}
    {model : Option γ} {further : γ → Option δ} (first : Follows related reader model)
    (second : ∀ value known, related value known → Follows later (next value) (further known)) :
    Follows later (reader >>= next) (model >>= further) := by
  rcases first with ⟨refused, rfl⟩ | ⟨value, known, read, rfl, matched⟩
  · exact .inl ⟨run_bind_none refused next, rfl⟩
  · rw [Follows, run_bind_some read]
    exact second value known matched

theorem Follows.pure {related : α → γ → Prop} {value : α} {known : γ}
    (matched : related value known) :
    Follows related (Pure.pure value) (Pure.pure known) :=
  .inr ⟨value, known, rfl, rfl, matched⟩

private theorem lift_ok (value : α) :
    (liftM (Except.ok value : Except Fault α) : OptionT (Except Fault) α) = Pure.pure value :=
  rfl

private theorem bounded_of_le {limit number : Nat} (fits : number ≤ limit) :
    bounded limit number = .ok number :=
  if_pos fits

end

/-! ## Fields -/

private theorem digit?_eq (byte : UInt8) : digit? byte = Date.digit? (Char.ofUInt8 byte) := by
  have every : ∀ code < 256,
      digit? (UInt8.ofNat code) = Date.digit? (Char.ofUInt8 (UInt8.ofNat code)) := by
    decide +kernel
  simpa using every byte.toNat byte.toNat_lt

private theorem digit?_le {byte : UInt8} {digit : Nat} (found : digit? byte = some digit) :
    digit ≤ 9 := by
  unfold digit? at found
  split at found
  · next inside =>
      cases found
      obtain ⟨low, high⟩ := inside
      rw [UInt8.toNat_sub_of_le _ _ low]
      exact Nat.sub_le_sub_right (UInt8.le_iff_toNat_le.mp high) _
  · cases found

theorem isDivider_eq (byte : UInt8) : isDivider byte = Date.isDivider (Char.ofUInt8 byte) := by
  have every : ∀ code < 256,
      isDivider (UInt8.ofNat code) = Date.isDivider (Char.ofUInt8 (UInt8.ofNat code)) := by
    decide +kernel
  simpa using every byte.toNat byte.toNat_lt

private theorem ofUInt8_eq_iff {byte : UInt8} {mark : Char} (ascii : mark.toNat < 128) :
    Char.ofUInt8 byte = mark ↔ byte = mark.toUInt8 := by
  constructor
  · intro same
    rw [← UInt8.toNat_inj, toNat_toUInt8 ascii, ← same, toNat_ofUInt8]
  · rintro rfl
    exact ofUInt8_toUInt8 ascii

private theorem digits?_add (value first second : Nat) (chars : List Char) :
    Date.digits? value (first + second) chars =
      Date.digits? value first chars >>= fun read => Date.digits? read.1 second read.2 := by
  induction first generalizing value chars with
  | zero =>
      rw [Nat.zero_add]
      cases chars <;> rfl
  | succ first ih =>
      rw [Nat.succ_add]
      cases chars with
      | nil => rfl
      | cons char rest =>
          rw [Date.digits?, Date.digits?]
          cases Date.digit? char with
          | none => rfl
          | some digit => exact ih _ rest

section

variable {bytes : List UInt8} {chars : List Char} {index value : Nat}

/-- What stands at an index, in the bytes and at the front of the characters from there on. -/
theorem ahead_cases (here : bytes[index]?.map Char.ofUInt8 = chars[index]?) :
    (bytes[index]? = none ∧ chars.drop index = []) ∨
      ∃ byte, bytes[index]? = some byte ∧
        chars.drop index = Char.ofUInt8 byte :: chars.drop (index + 1) := by
  have ahead : chars.drop index = chars[index]?.toList ++ chars.drop (index + 1) :=
    List.drop_eq_getElem?_toList_append
  rw [← here] at ahead
  cases read : bytes[index]? with
  | none =>
      rw [read] at here
      exact .inl ⟨rfl, List.drop_eq_nil_of_le (List.getElem?_eq_none_iff.mp here.symm)⟩
  | some byte =>
      rw [read] at ahead
      exact .inr ⟨byte, rfl, ahead⟩

private theorem follows_digit (here : bytes[index]?.map Char.ofUInt8 = chars[index]?) :
    Follows (fun digit known => digit ≤ 9 ∧ known = (10 * value + digit, chars.drop (index + 1)))
      (OptionT.mk (.ok (bytes[index]?.bind digit?))) (Date.digits? value 1 (chars.drop index)) := by
  rcases ahead_cases here with ⟨read, ahead⟩ | ⟨byte, read, ahead⟩
  · rw [read, ahead]
    exact .inl ⟨rfl, rfl⟩
  · rw [read, ahead, Option.bind_some, Date.digits?, ← digit?_eq]
    cases found : digit? byte with
    | none => exact .inl ⟨rfl, rfl⟩
    | some digit => exact .inr ⟨digit, _, rfl, rfl, digit?_le found, rfl⟩

private theorem follows_twoDigits (first : bytes[index]?.map Char.ofUInt8 = chars[index]?)
    (second : bytes[index + 1]?.map Char.ofUInt8 = chars[index + 1]?) :
    Follows
      (fun number known => number ≤ 99 ∧ known = (100 * value + number, chars.drop (index + 2)))
      (twoDigits bytes index) (Date.digits? value 2 (chars.drop index)) := by
  rw [digits?_add value 1 1]
  refine (follows_digit first).bind ?_
  rintro tens _ ⟨tensSmall, rfl⟩
  rw [← bind_pure (Date.digits? _ 1 _)]
  refine (follows_digit second).bind ?_
  rintro ones _ ⟨onesSmall, rfl⟩
  rw [bounded_of_le (by omega), lift_ok]
  refine .pure ⟨by omega, ?_⟩
  rw [Prod.mk.injEq]
  exact ⟨by omega, rfl⟩

private theorem follows_expect {mark : Char} (ascii : mark.toNat < 128)
    (here : bytes[index]?.map Char.ofUInt8 = chars[index]?) :
    Follows (fun _ known => known = chars.drop (index + 1))
      (expect bytes index mark.toUInt8) (Date.mark? mark (chars.drop index)) := by
  rcases ahead_cases here with ⟨read, ahead⟩ | ⟨byte, read, ahead⟩
  · rw [expect, read, ahead]
    exact .inl ⟨rfl, rfl⟩
  · rw [expect, read, ahead, Date.mark?]
    simp only [Option.some.injEq, ← ofUInt8_eq_iff ascii]
    split
    · exact .inr ⟨(), _, rfl, rfl, rfl⟩
    · exact .inl ⟨rfl, rfl⟩

/-- The four digits of a year are read as two numbers of two digits. -/
private theorem follows_day (agree : ∀ index < 10, bytes[index]?.map Char.ofUInt8 = chars[index]?) :
    Follows (fun date known => known = (date, chars.drop 10)) (day bytes) (Date.day? chars) := by
  unfold Date.day? day
  refine (follows_twoDigits (agree 0 (by decide)) (agree 1 (by decide))).bind ?_
  rintro month _ ⟨-, rfl⟩
  refine (follows_expect (by decide) (agree 2 (by decide))).bind ?_
  rintro _ _ rfl
  refine (follows_twoDigits (agree 3 (by decide)) (agree 4 (by decide))).bind ?_
  rintro day _ ⟨-, rfl⟩
  refine (follows_expect (by decide) (agree 5 (by decide))).bind ?_
  rintro _ _ rfl
  simp only [digits?_add 0 2 2, bind_assoc]
  refine (follows_twoDigits (agree 6 (by decide)) (agree 7 (by decide))).bind ?_
  rintro century _ ⟨centurySmall, rfl⟩
  refine (follows_twoDigits (agree 8 (by decide)) (agree 9 (by decide))).bind ?_
  rintro year _ ⟨yearSmall, rfl⟩
  rw [bounded_of_le (by omega), lift_ok, pure_bind]
  exact .pure (by simp)

private theorem follows_clockTime
    (agree : ∀ index : Nat, bytes[index]?.map Char.ofUInt8 = chars[index]?) :
    Follows (fun time known => known = (time, chars.drop 9)) (clockTime bytes)
      (Date.clockTime? (chars.drop 1)) := by
  unfold Date.clockTime? clockTime
  refine (follows_twoDigits (agree 1) (agree 2)).bind ?_
  rintro hour _ ⟨-, rfl⟩
  refine (follows_expect (by decide) (agree 3)).bind ?_
  rintro _ _ rfl
  refine (follows_twoDigits (agree 4) (agree 5)).bind ?_
  rintro minute _ ⟨-, rfl⟩
  refine (follows_expect (by decide) (agree 6)).bind ?_
  rintro _ _ rfl
  refine (follows_twoDigits (agree 7) (agree 8)).bind ?_
  rintro second _ ⟨-, rfl⟩
  exact .pure (by simp)

/-- The day of nineteen bytes is read from the first ten, and the time from the rest. -/
theorem cutBytes_parts (long : bytes.length = 19) :
    cutBytes bytes 0 10 = .ok (bytes.take 10) ∧
      cutBytes bytes 10 bytes.length = .ok (bytes.drop 10) := by
  constructor
  · rw [cutBytes, if_pos ⟨by decide, by omega⟩, List.drop_zero]
  · rw [cutBytes, if_pos ⟨by omega, Nat.le_refl _⟩, List.take_length]

/-- Behind the day stand a divider and a time, and nothing else. -/
theorem run_date_long (agree : ∀ index : Nat, bytes[index]?.map Char.ofUInt8 = chars[index]?)
    (long : bytes.length = 19) (size : chars.length = 19) :
    (date bytes).run = .ok (Date.ofChars? chars) := by
  have frontAgrees : ∀ index < 10, (bytes.take 10)[index]?.map Char.ofUInt8 = chars[index]? := by
    intro index near
    rw [List.getElem?_take_of_lt near, agree]
  have backAgrees : ∀ index : Nat,
      (bytes.drop 10)[index]?.map Char.ofUInt8 = (chars.drop 10)[index]? := by
    intro index
    rw [List.getElem?_drop, List.getElem?_drop, agree]
  have ended : (chars.drop 10).drop 9 = [] := by
    rw [List.drop_drop]
    exact List.drop_eq_nil_of_le (by omega)
  obtain ⟨front, back⟩ := cutBytes_parts long
  rw [date, if_neg (by omega), if_pos long, front, back, lift_ok, pure_bind, lift_ok, pure_bind,
    Date.ofChars?]
  rcases follows_day frontAgrees with ⟨refused, known⟩ | ⟨date, _, read, found, rfl⟩
  · rw [run_bind_none refused, known]
  · rw [run_bind_some read, found]
    rcases ahead_cases (backAgrees 0) with ⟨missing, _⟩ | ⟨divider, here, ahead⟩
    · have outside := List.getElem?_eq_none_iff.mp missing
      rw [List.length_drop] at outside
      omega
    · have first : readByte (bytes.drop 10) 0 = .ok divider := by rw [readByte, here]
      rw [List.drop_zero, Nat.zero_add] at ahead
      rw [first, lift_ok, pure_bind, ahead]
      simp only [isDivider_eq]
      split
      · rcases follows_clockTime backAgrees with ⟨refused, known⟩ | ⟨time, _, read, found, rfl⟩
        · rw [run_bind_none refused, known]
        · rw [run_bind_some read, found, ended]
          rfl
      · rfl

theorem run_date (bytes : List UInt8) :
    (date bytes).run = .ok (Date.ofChars? (bytes.map Char.ofUInt8)) := by
  have agree : ∀ index : Nat, bytes[index]?.map Char.ofUInt8 = (bytes.map Char.ofUInt8)[index]? :=
    fun index => List.getElem?_map.symm
  have size : (bytes.map Char.ofUInt8).length = bytes.length := List.length_map _
  generalize bytes.map Char.ofUInt8 = chars at agree size ⊢
  by_cases short : bytes.length = 10
  · have ended : chars.drop 10 = [] := List.drop_eq_nil_of_le (by omega)
    rw [date, if_pos short, Date.ofChars?]
    rcases follows_day (fun index _ => agree index) with
      ⟨refused, known⟩ | ⟨date, _, read, found, rfl⟩
    · rw [refused, known]
    · rw [read, found, ended]
  · by_cases long : bytes.length = 19
    · exact run_date_long agree long (size.trans long)
    · have refused : Date.ofChars? chars = none := by
        rw [Option.eq_none_iff_forall_ne_some]
        intro date read
        have sizes := Date.length_of_ofChars? read
        omega
      rw [date, if_neg short, if_neg long, refused]
      rfl

end

/-! ## Dates -/

/-- Bytes taken for characters write a date just when the characters do that they encode. -/
theorem ofChars?_bytes (chars : List Char) :
    Date.ofChars? ((encode chars).map Char.ofUInt8) = Date.ofChars? chars := by
  by_cases ascii : ∀ char ∈ chars, char.toNat < 128
  · have same : (encode chars).map Char.ofUInt8 = chars := by
      rw [encode_ascii ascii, List.map_map]
      refine (List.map_congr_left ?_).trans (List.map_id chars)
      intro char member
      exact ofUInt8_toUInt8 (ascii char member)
    rw [same]
  · have refused : Date.ofChars? chars = none := by
      rw [Option.eq_none_iff_forall_ne_some]
      intro date read
      exact ascii (Date.ascii_of_ofChars? read)
    rw [refused, Option.eq_none_iff_forall_ne_some]
    intro date read
    refine ascii (ascii_encode_iff.mp fun byte member => ?_)
    have small := Date.ascii_of_ofChars? read _ (List.mem_map_of_mem member)
    rw [toNat_ofUInt8] at small
    exact UInt8.lt_iff_toNat_lt.mpr small

theorem dateOfText_eq (text : String) : dateOfText text = .ok (Date.ofText? text) := by
  rw [dateOfText, run_date, bytes_eq_encode, ofChars?_bytes, Date.ofText?]

theorem decodeDate_eq (raw : String) : decodeDate raw = .ok (FormulaLexer.decodeDate raw) := by
  rw [decodeDate, FormulaLexer.decodeDate]
  cases dateInside? raw.toList with
  | none => rfl
  | some inside =>
      simp only [dateOfText_eq, Date.ofText?, String.toList_ofList, bind, Except.bind,
        Option.bind_some]
      cases Date.ofChars? inside with
      | none => rfl
      | some date => rfl

end Offsets

/-- A text is read as a date exactly if every number of the date keeps to its place and the text is
the display of the date, with any of six blanks in front of the time. The display of a date with any
numbers is read back as that date if they keep to their places, and as no date otherwise. Reading by
offsets gives the same answers and never faults. -/
theorem Date.ofText?_inverts_display (text : String) (date : Date) :
    (ofText? text = some date ↔
      date.InRange ∧ ∃ divider ∈ [' ', '\t', '\n', '\x0b', '\x0c', '\r'],
        text = String.ofList (date.render divider)) ∧
    (ofText? date.display = if date.InRange then some date else none) ∧
    (Offsets.dateOfText text = .ok (some date) ↔
      date.InRange ∧ ∃ divider ∈ [' ', '\t', '\n', '\x0b', '\x0c', '\r'],
        text = String.ofList (date.render divider)) ∧
    Offsets.dateOfText date.display = .ok (if date.InRange then some date else none) := by
  rw [Offsets.dateOfText_eq, Offsets.dateOfText_eq, Except.ok.injEq, Except.ok.injEq]
  exact ⟨ofText?_eq_some_iff text date, ofText?_display date, ofText?_eq_some_iff text date,
    ofText?_display date⟩

end FormulaLexer
