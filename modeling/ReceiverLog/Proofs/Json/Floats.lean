import ReceiverLog.Proofs.Json.Printing

namespace ReceiverLog

/-! Literals of floating-point numbers. The digits of a number that is not zero
begin with one that is not zero, so what is written around them is always a
literal; and it always has a point or a power of ten, so that it is never taken
for an integer. -/

/-! ## Digits -/

namespace Number

theorem le_nearestQuotient (numerator denominator : Nat) :
    numerator / denominator ≤ nearestQuotient numerator denominator := by
  simp only [nearestQuotient]
  split_ifs <;> omega

private theorem Digits.coefficient_trimmed_pos {digits : Digits} (positive : 0 < digits.coefficient)
    (bound : Nat) : 0 < (digits.trimmed bound).coefficient := by
  induction bound generalizing digits with
  | zero => exact positive
  | succ bound induction =>
    rw [Digits.trimmed]
    split
    · next ends_in_zero => exact induction (by simp only; omega)
    · exact positive

private theorem power_pos {base : Nat} (positive : 0 < base) (exponent : Nat) :
    0 < power base exponent :=
  Nat.pow_pos positive

private theorem Quotient.numerator_scale_pos {quotient : Quotient}
    (positive : 0 < quotient.numerator) {base : Nat} (base_positive : 0 < base) (exponent : Int) :
    0 < (quotient.scale base exponent).numerator := by
  cases exponent with
  | ofNat count => exact Nat.mul_pos positive (power_pos base_positive count)
  | negSucc count => exact positive

namespace RoundingInterval

theorem low_of_pos (format : BinaryFormat) {significand : Nat} (positive : 0 < significand)
    (exponent : Int) : 0 < (RoundingInterval.of format significand exponent).low := by
  simp only [RoundingInterval.of]
  split <;> omega

variable {interval : RoundingInterval}

private theorem pos_of_holds (low : 0 < interval.low) {scale point : Nat} (scaled : 0 < scale)
    (held : interval.holds scale point) : 0 < point := by
  have least := Nat.mul_pos low scaled
  unfold holds at held
  split at held <;> simp only [Bool.and_eq_true, decide_eq_true_eq] at held <;> omega

private theorem onGrid?_pos (low : 0 < interval.low) {power : Int} {digits : Digits}
    (found : interval.onGrid? power = some digits) : 0 < digits.coefficient := by
  have scaled :
      0 < ((Quotient.scale ⟨1, 1⟩ 2 interval.exponent).scale 10 (-power)).numerator :=
    Quotient.numerator_scale_pos (Quotient.numerator_scale_pos Nat.one_pos (by decide) _)
      (by decide) _
  simp only [onGrid?, Option.map_eq_some_iff] at found
  rcases found with ⟨point, found, rfl⟩
  generalize (Quotient.scale ⟨1, 1⟩ 2 interval.exponent).scale 10 (-power) = ratio
    at scaled found
  have below_pos (held : interval.holds ratio.numerator
      (interval.value * ratio.numerator / ratio.denominator * ratio.denominator)) :
      0 < interval.value * ratio.numerator / ratio.denominator :=
    Nat.pos_of_mul_pos_right (pos_of_holds low scaled held)
  split at found
  · next both =>
    cases found
    rw [Bool.and_eq_true] at both
    exact (below_pos both.1).trans_le (le_nearestQuotient _ _)
  split at found
  · next lower =>
    cases found
    exact below_pos lower
  split at found
  · cases found
    exact Nat.succ_pos _
  · cases found

theorem shortest_pos (low : 0 < interval.low) (value : 0 < interval.value) :
    0 < interval.shortest.coefficient := by
  simp only [shortest]
  split
  · next digits found =>
    rcases List.exists_of_findSome?_eq_some found with ⟨count, _, found⟩
    exact Digits.coefficient_trimmed_pos (onGrid?_pos low found) _
  · exact value

end RoundingInterval

end Number

/-! ## Texts around the digits -/

namespace Json

theorem isDigits_iff {text : List Char} :
    isDigits text ↔ text ≠ [] ∧ ∀ character ∈ text, isDigit character := by
  simp [isDigits]

theorem isDigits_toDigits (value : Nat) : isDigits (Nat.toDigits 10 value) := by
  simp [isDigits, all_isDigit_toDigits, Nat.toDigits_ne_nil]

private theorem isDigit_of_mem_replicate {count : Nat} {character : Char}
    (member : character ∈ List.replicate count '0') : isDigit character := by
  rw [List.eq_of_mem_replicate member]
  decide

theorem isUnsigned_append {whole tail : List Char} (isWhole_whole : isWhole whole)
    (ends : ∀ character ∈ tail.head?, ¬ isDigit character) (fraction : isFraction tail) :
    isUnsigned (whole ++ tail) := by
  have digits := isWhole_whole
  simp only [isWhole, Bool.and_eq_true, isDigits_iff] at digits
  rcases span_append digits.1.2 ends with ⟨taken, dropped⟩
  rw [isUnsigned, taken, dropped, isWhole_whole, fraction]
  rfl

private theorem isFraction_point {digits tail : List Char} (isDigits_digits : isDigits digits)
    (ends : ∀ character ∈ tail.head?, ¬ isDigit character) (exponent : isExponent tail) :
    isFraction ('.' :: (digits ++ tail)) := by
  rcases span_append (isDigits_iff.mp isDigits_digits).2 ends with ⟨taken, dropped⟩
  rw [isFraction, taken, dropped, isDigits_digits, exponent]
  rfl

private theorem isExponent_power (power : Int) :
    isExponent ('e' :: (if power < 0 then '-' else '+') :: Nat.toDigits 10 power.natAbs) := by
  have digits := isDigits_toDigits power.natAbs
  split <;> simpa [isExponent] using digits

structure IsFractional (text : List Char) : Prop where
  unsigned : isUnsigned text
  marked : '.' ∈ text ∨ 'e' ∈ text

structure AreSignificant (digits : List Char) : Prop where
  isDigits : isDigits digits
  head?_ne : digits.head? ≠ some '0'

private theorem areSignificant_toDigits {value : Nat} (positive : 0 < value) :
    AreSignificant (Nat.toDigits 10 value) where
  isDigits := isDigits_toDigits value
  head?_ne := head?_toDigits_ne value positive

namespace AreSignificant

variable {digits : List Char}

theorem isWhole (significant : AreSignificant digits) : isWhole digits := by
  simp [Json.isWhole, significant.isDigits, significant.head?_ne]

theorem append (significant : AreSignificant digits) {more : List Char}
    (isDigit_more : ∀ character ∈ more, isDigit character) : AreSignificant (digits ++ more) := by
  rcases isDigits_iff.mp significant.isDigits with ⟨some, all⟩
  refine ⟨isDigits_iff.mpr ⟨List.append_ne_nil_of_left_ne_nil some more, ?_⟩, ?_⟩
  · intro character member
    rcases List.mem_append.mp member with member | member
    · exact all character member
    · exact isDigit_more character member
  · cases digits with
    | nil => contradiction
    | cons first rest => exact significant.head?_ne

theorem take (significant : AreSignificant digits) {count : Nat} (positive : 0 < count) :
    AreSignificant (digits.take count) := by
  rcases isDigits_iff.mp significant.isDigits with ⟨some, all⟩
  refine ⟨isDigits_iff.mpr ⟨by simp [some]; omega, fun character member =>
    all character (List.mem_of_mem_take member)⟩, ?_⟩
  rw [List.head?_take, if_neg (by omega)]
  exact significant.head?_ne

end AreSignificant

private theorem isFractional_point {whole fraction exponent : List Char}
    (isWhole_whole : isWhole whole) (isDigits_fraction : isDigits fraction)
    (ends : ∀ character ∈ exponent.head?, ¬ isDigit character)
    (isExponent_exponent : isExponent exponent) :
    IsFractional (whole ++ '.' :: (fraction ++ exponent)) where
  unsigned := isUnsigned_append isWhole_whole (by simp [isDigit])
    (isFraction_point isDigits_fraction ends isExponent_exponent)
  marked := .inl (by simp)

theorem isFractional_places {whole fraction : List Char} (isWhole_whole : isWhole whole)
    (isDigits_fraction : isDigits fraction) : IsFractional (whole ++ '.' :: fraction) := by
  have written := isFractional_point isWhole_whole isDigits_fraction (by simp) (rfl : isExponent [])
  rwa [List.append_nil] at written

namespace NumberLayout

private theorem isFractional_positional {digits : List Char} (significant : AreSignificant digits)
    (point : Int) : IsFractional (positional digits point) := by
  rcases isDigits_iff.mp significant.isDigits with ⟨some, all⟩
  unfold positional
  split
  · have fraction : isDigits (List.replicate (-point).toNat '0' ++ digits) := by
      refine isDigits_iff.mpr ⟨by simp [some], fun character member => ?_⟩
      rcases List.mem_append.mp member with zero | member
      · exact isDigit_of_mem_replicate zero
      · exact all character member
    exact isFractional_places (by decide : isWhole ['0']) fraction
  next positive =>
  simp only
  split
  · have fraction : isDigits ['0'] := by decide
    exact isFractional_places
      (significant.append fun _ => isDigit_of_mem_replicate).isWhole fraction
  · next longer =>
    have fraction : isDigits (digits.drop point.toNat) :=
      isDigits_iff.mpr ⟨by simpa using longer, fun character member =>
        all character (List.mem_of_mem_drop member)⟩
    exact isFractional_places (significant.take (by omega)).isWhole fraction

private theorem isFractional_scientific {digits : List Char} (significant : AreSignificant digits)
    (point : Int) : IsFractional (scientific digits point) := by
  have exponent := isExponent_power (point - 1)
  unfold scientific
  simp only
  split
  · next first second rest =>
    have whole : isWhole [first] := (significant.take Nat.one_pos).isWhole
    have fraction : isDigits (second :: rest) :=
      isDigits_iff.mpr ⟨List.cons_ne_nil _ _, fun character member =>
        (isDigits_iff.mp significant.isDigits).2 character (List.mem_cons_of_mem first member)⟩
    exact isFractional_point whole fraction (by simp [isDigit]) exponent
  · exact ⟨isUnsigned_append significant.isWhole (by simp [isDigit]) exponent, .inr (by simp)⟩

theorem isFractional_write (layout : NumberLayout) {number : Number.Digits}
    (positive : 0 < number.coefficient) : IsFractional (layout.write number) := by
  have significant := areSignificant_toDigits positive
  simp only [write]
  split
  · exact isFractional_positional significant _
  · exact isFractional_scientific significant _

end NumberLayout

private theorem isWhole_eq_false {text : List Char} {mark : Char} (member : mark ∈ text)
    (no_digit : ¬ isDigit mark) : isWhole text = false := by
  rw [Bool.eq_false_iff]
  intro whole
  simp only [isWhole, Bool.and_eq_true, isDigits_iff] at whole
  exact no_digit (whole.1.2 mark member)

theorem integer?_eq_none {text : List Char} {mark : Char} (member : mark ∈ text)
    (no_digit : ¬ isDigit mark) (no_sign : mark ≠ '-') : integer? text = none := by
  unfold integer?
  split
  · next digits =>
    have behind : mark ∈ digits := (List.mem_cons.mp member).resolve_left no_sign
    simp [isWhole_eq_false behind no_digit]
  · simp [isWhole_eq_false member no_digit]

private theorem isLiteral_of_isUnsigned {text : List Char} (unsigned : isUnsigned text) :
    isLiteral text := by
  unfold isLiteral
  split
  · simp [isUnsigned, isWhole, isDigits, isDigit] at unsigned
  · exact unsigned

namespace IsFractional

variable {text : List Char}

private theorem isLiteral_signed (fractional : IsFractional text) (negative : Bool) :
    isLiteral (if negative then '-' :: text else text) := by
  cases negative with
  | true => exact fractional.unsigned
  | false => exact isLiteral_of_isUnsigned fractional.unsigned

private theorem integer?_signed (fractional : IsFractional text) (negative : Bool) :
    integer? (if negative then '-' :: text else text) = none := by
  have inside {mark : Char} (member : mark ∈ text) :
      mark ∈ (if negative then '-' :: text else text) := by
    split
    · exact List.mem_cons_of_mem _ member
    · exact member
  rcases fractional.marked with point | power
  · exact integer?_eq_none (inside point) (by decide) (by decide)
  · exact integer?_eq_none (inside power) (by decide) (by decide)

end IsFractional

/-- A floating-point number that has a literal has one that is never taken for
an integer, in any format and any layout. -/
theorem isLiteral_floatLiteral? {format : Number.BinaryFormat} {layout : NumberLayout}
    {number : Number.SignedMagnitude} {literal : List Char}
    (written : floatLiteral? format layout number = some literal) :
    isLiteral literal ∧ integer? literal = none := by
  rcases number with ⟨negative, magnitude⟩
  cases magnitude with
  | finite significand exponent =>
    simp only [floatLiteral?, Option.map_eq_some_iff] at written
    rcases written with ⟨text, unsigned, rfl⟩
    have fractional : IsFractional text := by
      split at unsigned
      · cases unsigned
        exact ⟨by decide, by decide⟩
      · next nonzero =>
        cases unsigned
        have positive := Nat.pos_of_ne_zero nonzero
        exact layout.isFractional_write (Number.RoundingInterval.shortest_pos
          (Number.RoundingInterval.low_of_pos format positive exponent)
          (Nat.mul_pos (by decide) positive))
    exact ⟨fractional.isLiteral_signed negative, fractional.integer?_signed negative⟩
  | infinite => cases written
  | notANumber => cases written

theorem isLiteral_doubleLiteral? {number : Float} {literal : List Char}
    (written : doubleLiteral? number = some literal) :
    isLiteral literal ∧ integer? literal = none :=
  isLiteral_floatLiteral? written

theorem isLiteral_singleLiteral? {number : Float32} {literal : List Char}
    (written : singleLiteral? number = some literal) :
    isLiteral literal ∧ integer? literal = none :=
  isLiteral_floatLiteral? written

namespace Value

private theorem hasLiterals_ofLiteral? {found : Option (List Char)}
    (literals : ∀ literal ∈ found, isLiteral literal) : (ofLiteral? found).HasLiterals := by
  cases found with
  | none => trivial
  | some literal =>
    simp only [ofLiteral?, HasLiterals, String.toList_ofList]
    exact literals literal rfl

theorem hasLiterals_double (number : Float) : (double number).HasLiterals :=
  hasLiterals_ofLiteral? fun _ written => (isLiteral_doubleLiteral? written).1

theorem hasLiterals_single (number : Float32) : (single number).HasLiterals :=
  hasLiterals_ofLiteral? fun _ written => (isLiteral_singleLiteral? written).1

end Value

end Json

end ReceiverLog
