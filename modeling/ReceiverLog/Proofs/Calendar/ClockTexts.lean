import ReceiverLog.Calendar.TimeOfDay
import ReceiverLog.Proofs.Number.DecimalTexts
import ReceiverLog.Proofs.Number.Truncating
import ReceiverLog.Sentence.Fields

namespace ReceiverLog

/-! The texts that are taken for a time of day. The format of a time is two digits each for
the hour, the minute and the second, with a point and digits behind them or without. All texts
of the format are read as they are written, but for seconds that lie so close to the next one
that a double cannot tell them apart. Other texts are read as well: a plus sign can stand for
the first digit of an hour or a minute, and any decimal number for the seconds. What is read
neither way is refused. -/

namespace Number

theorem digit?_ten_eq_some_iff {character : Char} {value : Nat} :
    digit? 10 character = some value ↔ value < 10 ∧ character = Nat.digitChar value := by
  constructor
  · intro found
    rw [digit?, Option.filter_eq_some_iff, decide_eq_true_eq] at found
    refine ⟨found.2, ?_⟩
    have read := found.1
    have small := found.2
    split_ifs at read with digit
    · have least : 48 ≤ character.toNat := UInt32.le_iff_toNat_le.mp digit.1
      cases read
      apply Char.toNat_inj.mp
      rw [Nat.toNat_digitChar_of_lt_ten small]
      change character.toNat = 48 + (character.toNat - 48)
      omega
    all_goals
      cases read
      omega
  · rintro ⟨small, rfl⟩
    have every : ∀ digit : Fin 10, digit? 10 (Nat.digitChar digit) = some digit.val := by decide
    exact every ⟨value, small⟩

end Number

namespace TimeOfDay

/-- The number that the two characters of an hour or a minute are taken for: two digits, or a
digit behind a plus sign. -/
inductive IsPart : List Char → Nat → Prop
  | digits {value : Nat} (small : value < 100) : IsPart (padded 2 value) value
  | signed {value : Nat} (small : value < 10) : IsPart ['+', Nat.digitChar value] value

theorem padded_two {value : Nat} (small : value < 100) :
    padded 2 value = [Nat.digitChar (value / 10), Nat.digitChar (value % 10)] := by
  have every : ∀ number : Fin 100,
      padded 2 number = [Nat.digitChar (number / 10), Nat.digitChar (number % 10)] := by decide
  exact every ⟨value, small⟩

private theorem digitChar_ne_plus {value : Nat} (small : value < 10) :
    Nat.digitChar value ≠ '+' := by
  have every : ∀ digit : Fin 10, Nat.digitChar digit ≠ '+' := by decide
  exact every ⟨value, small⟩

private theorem part?_plus (second : Char) : part? ['+', second] = Number.digit? 10 second := by
  have size : UInt32.size = 4294967296 := rfl
  cases read : Number.digit? 10 second with
  | none => simp [part?, Number.numeral?, Number.digitsFrom, read]
  | some value =>
      have small := (Number.digit?_ten_eq_some_iff.mp read).1
      have fits : value < UInt32.size := by omega
      simp [part?, Number.numeral?, Number.digitsFrom, read, Option.filter, fits]

private theorem part?_unsigned {first : Char} (unsigned : first ≠ '+') (second : Char) :
    part? [first, second] =
      (do return (← Number.digit? 10 first) * 10 + (← Number.digit? 10 second)) := by
  have size : UInt32.size = 4294967296 := rfl
  cases readFirst : Number.digit? 10 first with
  | none => simp [part?, Number.numeral?, Number.digitsFrom, unsigned, readFirst]
  | some tens =>
      cases readSecond : Number.digit? 10 second with
      | none => simp [part?, Number.numeral?, Number.digitsFrom, unsigned, readFirst, readSecond]
      | some ones =>
          have tensSmall := (Number.digit?_ten_eq_some_iff.mp readFirst).1
          have onesSmall := (Number.digit?_ten_eq_some_iff.mp readSecond).1
          have fits : tens * 10 + ones < UInt32.size := by omega
          simp [part?, Number.numeral?, Number.digitsFrom, unsigned, readFirst, readSecond,
            Option.filter, fits]

private theorem part?_padded {value : Nat} (small : value < 100) :
    part? (padded 2 value) = some value := by
  have tens := Number.digit?_ten_eq_some_iff.mpr ⟨show value / 10 < 10 by omega, rfl⟩
  have ones := Number.digit?_ten_eq_some_iff.mpr ⟨show value % 10 < 10 by omega, rfl⟩
  rw [padded_two small, part?_unsigned (digitChar_ne_plus (by omega)), tens, ones]
  exact congrArg some (Nat.div_add_mod' value 10)

theorem IsPart.length {text : List Char} {value : Nat} (isPart : IsPart text value) :
    text.length = 2 := by
  cases isPart with
  | digits small => rw [padded_two small]; rfl
  | signed _ => rfl

theorem IsPart.part? {text : List Char} {value : Nat} (isPart : IsPart text value) :
    part? text = some value := by
  cases isPart with
  | digits small => exact part?_padded small
  | signed small =>
      rw [part?_plus]
      exact Number.digit?_ten_eq_some_iff.mpr ⟨small, rfl⟩

theorem isPart_of_part? {text : List Char} (two : text.length = 2) {value : Nat}
    (found : TimeOfDay.part? text = some value) : IsPart text value := by
  rcases List.length_eq_two.mp two with ⟨first, second, rfl⟩
  by_cases signed : first = '+'
  · subst signed
    rw [part?_plus, Number.digit?_ten_eq_some_iff] at found
    rw [found.2]
    exact .signed found.1
  · rw [part?_unsigned signed] at found
    rcases Option.bind_eq_some_iff.mp found with ⟨tens, tensRead, found⟩
    rcases Option.bind_eq_some_iff.mp found with ⟨ones, onesRead, found⟩
    cases found
    rcases Number.digit?_ten_eq_some_iff.mp tensRead with ⟨tensSmall, rfl⟩
    rcases Number.digit?_ten_eq_some_iff.mp onesRead with ⟨onesSmall, rfl⟩
    have written := padded_two (show tens * 10 + ones < 100 by omega)
    rw [show (tens * 10 + ones) / 10 = tens by omega,
      show (tens * 10 + ones) % 10 = ones by omega] at written
    rw [← written]
    exact .digits (by omega)

/-! ## Texts that are taken for a time -/

/-- Two characters each for the hour and the minute, and any decimal number of two or more for
the seconds. -/
inductive IsClock : List Char → Nat → Nat → Nat → Prop
  | clock {hourText minuteText secondText : List Char} {hour minute : Nat}
      {seconds : Number.Decimal} (isHour : IsPart hourText hour)
      (isMinute : IsPart minuteText minute) (long : 2 ≤ secondText.length)
      (writes : Number.Decimal.Writes secondText seconds) :
      IsClock (hourText ++ (minuteText ++ secondText)) hour minute seconds.whole

private theorem milliseconds_lt (seconds : Float) : milliseconds seconds < 1000 :=
  Nat.lt_succ_of_le (Nat.min_le_left _ _)

theorem isClock_of_read? {text : List Char} {time : TimeOfDay} (found : read? text = some time) :
    IsClock text time.hour time.minute time.second := by
  rw [read?] at found
  split at found
  · cases found
  next long =>
  rcases Option.bind_eq_some_iff.mp found with ⟨hour, hourRead, found⟩
  rcases Option.bind_eq_some_iff.mp found with ⟨minute, minuteRead, found⟩
  rcases Option.bind_eq_some_iff.mp found with ⟨seconds, secondsRead, found⟩
  rcases Option.map_eq_some_iff.mp secondsRead with ⟨decimal, decimalRead, rfl⟩
  rw [Number.Decimal.toNat_toUInt32_toDouble, of?] at found
  split at found
  · cases found
    have isHour := isPart_of_part? (by simp; omega) hourRead
    have isMinute := isPart_of_part? (by simp; omega) minuteRead
    have isClock := IsClock.clock isHour isMinute (by simp; omega)
      (Number.Decimal.read?_eq_some_iff.mp decimalRead)
    have rest : (text.drop 2).take 2 ++ (text.drop 2).drop 2 = text.drop 2 :=
      List.take_append_drop _ _
    rw [List.drop_drop] at rest
    rw [rest, List.take_append_drop] at isClock
    exact isClock
  · cases found

theorem read?_of_isClock {text : List Char} {hour minute second : Nat}
    (isClock : IsClock text hour minute second) :
    ∃ millisecond < 1000, read? text = of? hour minute second millisecond := by
  cases isClock with
  | @clock hourText minuteText secondText _ _ seconds isHour isMinute long writes =>
      have hourLength := isHour.length
      have minuteLength := isMinute.length
      refine ⟨milliseconds seconds.toDouble, milliseconds_lt _, ?_⟩
      have hours : (hourText ++ (minuteText ++ secondText)).take 2 = hourText := by
        rw [← hourLength, List.take_left]
      have minutes : ((hourText ++ (minuteText ++ secondText)).drop 2).take 2 = minuteText := by
        rw [← hourLength, List.drop_left, hourLength, ← minuteLength, List.take_left]
      have rest : (hourText ++ (minuteText ++ secondText)).drop 4 = secondText := by
        have four : 4 = (hourText ++ minuteText).length := by
          rw [List.length_append, hourLength, minuteLength]
        rw [← List.append_assoc, four, List.drop_left]
      have enough : ¬(hourText ++ (minuteText ++ secondText)).length < 6 := by
        simp
        omega
      rw [read?, if_neg enough, hours, minutes, rest, isHour.part?, isMinute.part?, Number.double?,
        Number.Decimal.read?_eq_some_iff.mpr writes]
      exact congrArg (of? _ _ · _) (Number.Decimal.toNat_toUInt32_toDouble _)

end TimeOfDay

/-! ## The format of a time -/

/-- A time as its format has it: two digits each for the hour, the minute and the second, and
behind them a point and digits or nothing. -/
structure ClockText where
  hour : Fin 100
  minute : Fin 100
  second : Fin 100
  fraction : List Char
  areDigits : Number.Decimal.AreDigits fraction

namespace ClockText

open Number (Decimal Quotient)

def secondText (clock : ClockText) : List Char :=
  TimeOfDay.padded 2 clock.second ++
    if clock.fraction = [] then [] else '.' :: clock.fraction

def write (clock : ClockText) : List Char :=
  TimeOfDay.padded 2 clock.hour ++ (TimeOfDay.padded 2 clock.minute ++ clock.secondText)

def decimal (clock : ClockText) : Decimal :=
  .finite false (Decimal.value (TimeOfDay.padded 2 clock.second ++ clock.fraction))
    (0 - (clock.fraction.length : Int))

def seconds (clock : ClockText) : Quotient where
  numerator := clock.second * 10 ^ clock.fraction.length + Decimal.value clock.fraction
  denominator := 10 ^ clock.fraction.length

theorem padded_spec (number : Fin 100) :
    Decimal.AreDigits (TimeOfDay.padded 2 number) ∧ TimeOfDay.padded 2 number ≠ [] ∧
      Decimal.value (TimeOfDay.padded 2 number) = number := by
  have every : ∀ number : Fin 100, (TimeOfDay.padded 2 number).all Decimal.isDigit ∧
      TimeOfDay.padded 2 number ≠ [] ∧ Decimal.value (TimeOfDay.padded 2 number) = number := by
    decide
  exact ⟨List.all_eq_true.mp (every number).1, (every number).2⟩

variable (clock : ClockText)

private theorem isDigit_of_mem_write {character : Char} (member : character ∈ clock.write) :
    Decimal.isDigit character ∨ character = '.' := by
  have padded (number : Fin 100) (member : character ∈ TimeOfDay.padded 2 number) :
      Decimal.isDigit character ∨ character = '.' :=
    .inl ((padded_spec number).1 character member)
  rw [write, secondText, List.mem_append, List.mem_append, List.mem_append] at member
  rcases member with member | member | member | member
  · exact padded _ member
  · exact padded _ member
  · exact padded _ member
  · split_ifs at member
    · cases member
    · exact (List.mem_cons.mp member).symm.imp_left (clock.areDigits character)

theorem writes_decimal : Decimal.Writes clock.secondText clock.decimal := by
  rcases padded_spec clock.second with ⟨areDigits, filled, _⟩
  have digits : Decimal.WritesDigits clock.secondText
      (Decimal.value (TimeOfDay.padded 2 clock.second ++ clock.fraction))
      clock.fraction.length := by
    rw [secondText]
    split_ifs with none
    · rw [none, List.append_nil]
      exact .whole filled areDigits
    · exact .pointed (List.append_ne_nil_of_left_ne_nil filled _)
        (areDigits.append clock.areDigits)
  have written := Decimal.Writes.finite none digits .nothing
  rw [Decimal.signText, List.nil_append, List.append_nil] at written
  exact written

theorem floor_seconds : clock.seconds.floor = clock.second := by
  have small := Decimal.value_lt clock.areDigits
  rw [Quotient.floor, seconds, Nat.add_comm, Nat.add_mul_div_right _ _ (by positivity),
    Nat.div_eq_of_lt small, Nat.zero_add]

private theorem value_seconds : clock.seconds.value =
    clock.second + (Decimal.value clock.fraction : ℚ) / 10 ^ clock.fraction.length := by
  rw [Quotient.value, seconds]
  push_cast
  field_simp

private theorem whole_decimal : clock.decimal.whole = clock.seconds.rounded := by
  have equal : (Quotient.scale
      ⟨Decimal.value (TimeOfDay.padded 2 clock.second ++ clock.fraction), 1⟩ 10
      (0 - (clock.fraction.length : Int))).value = clock.seconds.value := by
    rw [Quotient.value_scale_one, zero_sub, zpow_neg, zpow_natCast, Decimal.value_append,
      (padded_spec clock.second).2.2, Quotient.value, seconds, div_eq_mul_inv]
    push_cast
    rfl
  have most : clock.seconds.rounded ≤ 100 := by
    have floor := clock.floor_seconds
    rw [Quotient.rounded]
    split_ifs <;> omega
  rw [decimal, Decimal.whole, if_neg Bool.false_ne_true, Quotient.rounded_congr equal]
  exact Nat.min_eq_right (most.trans (by decide))

theorem le_rounded_seconds : clock.second ≤ clock.seconds.rounded :=
  Quotient.le_rounded (clock.floor_seconds ▸ Quotient.floor_le)

/-- Fourteen digits behind the point leave more to the next second than a double can lose. -/
theorem rounded_seconds (short : clock.fraction.length ≤ 14) (inside : clock.second.val < 60) :
    clock.seconds.rounded = clock.second := by
  have unit : (0 : ℚ) < 10 ^ clock.fraction.length := by positivity
  have size : clock.second.val.size ≤ 6 := Nat.size_le.mpr (by omega)
  have place : Quotient.halfPlace clock.second < 1 / 10 ^ clock.fraction.length := by
    calc (2 : ℚ) ^ clock.second.val.size / 2 ^ 54 ≤ 2 ^ 6 / 2 ^ 54 := by gcongr; norm_num
      _ < 1 / 10 ^ 14 := by norm_num
      _ ≤ 1 / 10 ^ clock.fraction.length := by gcongr; norm_num
  have below : (Decimal.value clock.fraction : ℚ) + 1 ≤ 10 ^ clock.fraction.length := by
    exact_mod_cast Decimal.value_lt clock.areDigits
  have missing : (Decimal.value clock.fraction : ℚ) / 10 ^ clock.fraction.length ≤
      1 - 1 / 10 ^ clock.fraction.length := by
    rw [div_le_iff₀ unit, sub_mul, one_div_mul_cancel unit.ne']
    linarith
  have kept : ¬clock.seconds.RoundsUp := by
    rw [Quotient.RoundsUp, floor_seconds, value_seconds, not_le]
    linarith
  rw [Quotient.rounded, if_neg kept, floor_seconds]

/-- Texts of the format are taken for the hour and the minute that they write, and for the
second, unless rounding loses what is missing to the next one. -/
theorem isClock :
    TimeOfDay.IsClock clock.write clock.hour clock.minute clock.seconds.rounded := by
  have long : 2 ≤ clock.secondText.length := by
    rw [secondText, List.length_append, TimeOfDay.padded_two clock.second.isLt]
    exact Nat.le_add_right _ _
  rw [← whole_decimal]
  exact .clock (.digits clock.hour.isLt) (.digits clock.minute.isLt) long clock.writes_decimal

end ClockText

/-! ## What is answered for a field -/

namespace TimeOfDay

structure Answers (result : Except Malformed (Option TimeOfDay)) (refusal : Malformed)
    (hour minute second : Nat) : Prop where
  told : hour < 24 → minute < 60 → second < 60 → ∃ time, result = .ok (some time) ∧
    time.hour = hour ∧ time.minute = minute ∧ time.second = second
  refused : ¬(hour < 24 ∧ minute < 60 ∧ second < 60) → result = .error refusal

structure AnswersField (text : List Char) (result : Except Malformed (Option TimeOfDay))
    (refusal : Malformed) : Prop where
  blank : text = [] → result = .ok none
  taken : ∀ hour minute second, IsClock text hour minute second →
    Answers result refusal hour minute second
  other : text ≠ [] → (∀ hour minute second, ¬IsClock text hour minute second) →
    result = .error refusal
  /-- A text of the format is taken for its hour, its minute, and its second unless rounding
  loses what is missing to the next one. -/
  formatted : ∀ clock : ClockText, text = clock.write →
    Answers result refusal clock.hour clock.minute clock.seconds.rounded
  /-- Rounding loses nothing behind no more than fourteen digits. -/
  exact : ∀ clock : ClockText, text = clock.write → clock.fraction.length ≤ 14 →
    Answers result refusal clock.hour clock.minute clock.second

theorem IsClock.filled {text : List Char} {hour minute second : Nat}
    (isClock : IsClock text hour minute second) : text ≠ [] := by
  rintro rfl
  generalize empty : [] = text at isClock
  cases isClock with
  | clock isHour _ _ _ =>
      have none := (List.append_eq_nil_iff.mp empty.symm).1
      cases none ▸ isHour.length

section

variable (kind : SentenceKind) (index : Nat) {text : List Char}

theorem answers_of_isClock {hour minute second : Nat}
    (isClock : IsClock (Text.trim text) hour minute second) :
    Answers (readField kind index read? text) (.invalidField kind index (Text.trim text))
      hour minute second := by
  have filled : (Text.trim text).isEmpty = false := List.isEmpty_eq_false_iff.mpr isClock.filled
  rcases read?_of_isClock isClock with ⟨millisecond, small, read⟩
  constructor
  · intro hourBound minuteBound secondBound
    rw [of?, dif_pos ⟨hourBound, minuteBound, secondBound, small⟩] at read
    have found : readField kind index read? text = .ok (some ⟨⟨hour, hourBound⟩,
        ⟨minute, minuteBound⟩, ⟨second, secondBound⟩, ⟨millisecond, small⟩⟩) := by
      simp [readField, filled, read]
    exact ⟨_, found, rfl, rfl, rfl⟩
  · intro outside
    rw [of?, dif_neg fun inside => outside ⟨inside.1, inside.2.1, inside.2.2.1⟩] at read
    simp [readField, filled, read]

private theorem readField_of_not_isClock (filled : Text.trim text ≠ [])
    (others : ∀ hour minute second, ¬IsClock (Text.trim text) hour minute second) :
    readField kind index read? text = .error (.invalidField kind index (Text.trim text)) := by
  have read : read? (Text.trim text) = none :=
    Option.eq_none_iff_forall_ne_some.mpr fun time found =>
      others _ _ _ (isClock_of_read? found)
  simp [readField, List.isEmpty_eq_false_iff.mpr filled, read]

end

/-- Every field is answered by its trimmed text: a blank one is absent, one that is taken for a
time gives it, and every other one is refused. -/
theorem answersField (kind : SentenceKind) (index : Nat) (text : List Char) :
    AnswersField (Text.trim text) (readField kind index read? text)
      (.invalidField kind index (Text.trim text)) where
  blank := fun blank => by simp [readField, blank]
  taken := fun _ _ _ => answers_of_isClock kind index
  other := readField_of_not_isClock kind index
  formatted := fun clock written => answers_of_isClock kind index (written ▸ clock.isClock)
  exact := by
    intro clock written short
    have answers := answers_of_isClock kind index (written ▸ clock.isClock)
    by_cases inside : clock.second.val < 60
    · rwa [clock.rounded_seconds short inside] at answers
    · have least := clock.le_rounded_seconds
      exact ⟨fun _ _ bound => absurd bound inside, fun _ => answers.refused fun _ => by omega⟩

/-- A plus sign is no digit, and yet it can stand before a minute; and a second that is almost
over is taken for the next one. -/
theorem readField_slips :
    (∀ clock : ClockText, clock.write ≠ "12+034".toList) ∧
      readField .fixData 1 read? "12+034".toList = .ok (some ⟨12, 0, 34, 0⟩) ∧
      readField .fixData 1 read? "000000.99999999999999999999".toList =
        .ok (some ⟨0, 0, 1, 0⟩) := by
  refine ⟨?_, by decide +kernel, by decide +kernel⟩
  intro clock written
  have plus : '+' ∈ clock.write := by simp [written]
  rcases clock.isDigit_of_mem_write plus with digit | point
  · cases digit
  · cases point

end TimeOfDay

end ReceiverLog
