import Mathlib.Algebra.Order.Field.Power
import Mathlib.Algebra.Order.Floor.Semifield
import Mathlib.Data.Nat.Size
import Mathlib.Data.Rat.Floor
import ReceiverLog.Number.Decimal
import ReceiverLog.Proofs.Number.Doubles

namespace ReceiverLog.Number

/-! Decimal numbers that lose their fraction after they have been read as doubles. Reading
rounds: what is missing to the next whole number is lost if it is no more than half of the
last place that a double has there. Apart from that the whole number is kept. -/

/-! ## Quotients as rational numbers -/

namespace Quotient

def value (quotient : Quotient) : ℚ :=
  quotient.numerator / quotient.denominator

variable {quotient : Quotient}

theorem value_nonneg : 0 ≤ quotient.value := by
  rw [value]
  positivity

theorem value_scale (base : Nat) (exponent : Int) :
    (quotient.scale base exponent).value = quotient.value * (base : ℚ) ^ exponent := by
  cases exponent with
  | ofNat count => simp [scale, value, power, mul_div_right_comm]
  | negSucc count =>
      simp only [scale, value, power, zpow_negSucc, Nat.pow_eq]
      push_cast
      rw [div_mul_eq_div_div, div_eq_mul_inv]

theorem value_scale_one (base number : Nat) (exponent : Int) :
    (Quotient.scale ⟨number, 1⟩ base exponent).value = number * (base : ℚ) ^ exponent := by
  rw [value_scale, value, Nat.cast_one, div_one]

theorem denominator_scale_pos (bottom : 0 < quotient.denominator) {base : Nat}
    (basePositive : 0 < base) (exponent : Int) :
    0 < (quotient.scale base exponent).denominator := by
  cases exponent with
  | ofNat count => exact bottom
  | negSucc count => exact Nat.mul_pos bottom (Nat.pow_pos basePositive)

theorem floor_eq : quotient.floor = ⌊quotient.value⌋₊ := by
  rw [floor, value, Nat.floor_div_eq_div]

theorem floor_le : (quotient.floor : ℚ) ≤ quotient.value := by
  rw [floor_eq]
  exact Nat.floor_le value_nonneg

theorem le_floor {whole : Nat} (reached : whole ≤ quotient.value) : whole ≤ quotient.floor := by
  rw [floor_eq]
  exact Nat.le_floor reached

theorem floor_lt {whole : Nat} (below : quotient.value < whole) : quotient.floor < whole := by
  rw [floor_eq]
  exact (Nat.floor_lt value_nonneg).mpr below

theorem lt_floor_add_one : quotient.value < quotient.floor + 1 := by
  rw [floor_eq]
  exact Nat.lt_floor_add_one _

/-! ## The nearest whole number -/

private theorem nearest_le : quotient.nearest ≤ quotient.floor + 1 := by
  rw [nearest, floor, nearestQuotient]
  split_ifs <;> omega

theorem le_nearest_iff (bottom : 0 < quotient.denominator) {even : Nat}
    (isEven : even % 2 = 0) :
    even ≤ quotient.nearest ↔ (even : ℚ) - 1 / 2 ≤ quotient.value := by
  have bottomCast : (0 : ℚ) < quotient.denominator := by exact_mod_cast bottom
  rw [value, le_div_iff₀ bottomCast, nearest]
  generalize quotient.denominator = denominator at *
  generalize quotient.numerator = numerator at *
  have cleared : ((even : ℚ) - 1 / 2) * denominator ≤ numerator ↔
      2 * (even * denominator) ≤ 2 * numerator + denominator := by
    rw [← Nat.cast_le (α := ℚ)]
    push_cast
    constructor <;> intro missing <;> linarith
  rw [cleared, nearestQuotient]
  have parts := Nat.div_add_mod numerator denominator
  have rest := Nat.mod_lt numerator bottom
  generalize numerator / denominator = whole at *
  generalize numerator % denominator = remainder at *
  rw [Nat.mul_comm denominator] at parts
  rcases Nat.lt_trichotomy even (whole + 1) with below | equal | above
  · have : even * denominator ≤ whole * denominator := Nat.mul_le_mul_right _ (by omega)
    split_ifs <;> omega
  · subst equal
    rw [Nat.add_mul]
    split_ifs <;> omega
  · have : (whole + 2) * denominator ≤ even * denominator := Nat.mul_le_mul_right _ above
    rw [Nat.add_mul] at this
    split_ifs <;> omega

theorem le_nearest_scale_iff (bottom : 0 < quotient.denominator) (places whole : Nat) :
    whole * 2 ^ (places + 1) ≤ (quotient.scale 2 (places + 1 : Nat)).nearest ↔
      (whole : ℚ) - 1 / 2 ^ (places + 2) ≤ quotient.value := by
  have isEven : whole * 2 ^ (places + 1) % 2 = 0 := by
    rw [pow_succ, ← Nat.mul_assoc]
    exact Nat.mul_mod_left _ _
  have unit : (0 : ℚ) < 2 ^ (places + 1) := by positivity
  have halved : ((whole * 2 ^ (places + 1) : Nat) - 1 / 2 : ℚ) / (2 : Nat) ^ (places + 1) =
      whole - 1 / 2 ^ (places + 2) := by
    push_cast
    rw [pow_succ _ (places + 1)]
    field_simp
  rw [le_nearest_iff (denominator_scale_pos bottom (by decide) _) isEven, value_scale,
    zpow_natCast, ← div_le_iff₀ (by exact_mod_cast unit), halved]

/-! ## The order of a quotient -/

theorem binaryOrder_spec (positive : 0 < quotient.numerator)
    (bottom : 0 < quotient.denominator) :
    (2 : ℚ) ^ quotient.binaryOrder ≤ quotient.value ∧
      quotient.value < 2 ^ (quotient.binaryOrder + 1) := by
  have two : (0 : ℚ) < 2 := by norm_num
  have bottomCast : (0 : ℚ) < quotient.denominator := by exact_mod_cast bottom
  have numeratorLow : (2 : ℚ) ^ (quotient.numerator.log2 : Int) ≤ quotient.numerator := by
    exact_mod_cast Nat.log2_self_le positive.ne'
  have numeratorHigh :
      (quotient.numerator : ℚ) < 2 ^ ((quotient.numerator.log2 : Int) + 1) := by
    exact_mod_cast Nat.lt_log2_self
  have denominatorLow :
      (2 : ℚ) ^ (quotient.denominator.log2 : Int) ≤ quotient.denominator := by
    exact_mod_cast Nat.log2_self_le bottom.ne'
  have denominatorHigh :
      (quotient.denominator : ℚ) < 2 ^ ((quotient.denominator.log2 : Int) + 1) := by
    exact_mod_cast Nat.lt_log2_self
  rw [binaryOrder]
  generalize guessed : (quotient.numerator.log2 : Int) - (quotient.denominator.log2 : Int) = guess
  have low : (2 : ℚ) ^ (guess - 1) ≤ quotient.value := by
    rw [value, le_div_iff₀ bottomCast]
    calc (2 : ℚ) ^ (guess - 1) * quotient.denominator
        ≤ 2 ^ (guess - 1) * 2 ^ ((quotient.denominator.log2 : Int) + 1) := by gcongr
      _ = 2 ^ (quotient.numerator.log2 : Int) := by
        rw [← zpow_add₀ two.ne']
        congr 1
        omega
      _ ≤ quotient.numerator := numeratorLow
  have high : quotient.value < (2 : ℚ) ^ (guess + 1) := by
    rw [value, div_lt_iff₀ bottomCast]
    calc (quotient.numerator : ℚ)
        < 2 ^ ((quotient.numerator.log2 : Int) + 1) := numeratorHigh
      _ = 2 ^ (guess + 1) * 2 ^ (quotient.denominator.log2 : Int) := by
        rw [← zpow_add₀ two.ne']
        congr 1
        omega
      _ ≤ 2 ^ (guess + 1) * quotient.denominator := by gcongr
  have compared : (quotient.scale 2 (-guess)).numerator < (quotient.scale 2 (-guess)).denominator ↔
      quotient.value < 2 ^ guess := by
    have scaledBottom : (0 : ℚ) < (quotient.scale 2 (-guess)).denominator := by
      exact_mod_cast denominator_scale_pos bottom (by decide) _
    rw [← Nat.cast_lt (α := ℚ), ← div_lt_one scaledBottom]
    change (quotient.scale 2 (-guess)).value < 1 ↔ _
    rw [value_scale, zpow_neg, ← div_eq_mul_inv, Nat.cast_ofNat,
      div_lt_one (zpow_pos two guess)]
  split_ifs with below
  · exact ⟨low, by simpa using compared.mp below⟩
  · exact ⟨not_lt.mp (compared.not.mp below), high⟩

private theorem size_floor {order : Nat} (low : (2 : ℚ) ^ order ≤ quotient.value)
    (high : quotient.value < 2 ^ (order + 1)) : quotient.floor.size = order + 1 := by
  have least : 2 ^ order ≤ quotient.floor := le_floor (by exact_mod_cast low)
  have most : quotient.floor < 2 ^ (order + 1) := floor_lt (by exact_mod_cast high)
  exact Nat.le_antisymm (Nat.size_le.mpr most) (Nat.lt_size.mpr least)

/-! ## Rounding to a double -/

def halfPlace (whole : Nat) : ℚ :=
  2 ^ whole.size / 2 ^ 54

/-- What is missing to the next whole number is lost to rounding. -/
def RoundsUp (quotient : Quotient) : Prop :=
  (quotient.floor : ℚ) + 1 - quotient.value ≤ halfPlace quotient.floor

instance : DecidablePred RoundsUp := fun quotient =>
  inferInstanceAs (Decidable ((quotient.floor : ℚ) + 1 - quotient.value ≤ halfPlace quotient.floor))

def rounded (quotient : Quotient) : Nat :=
  if quotient.RoundsUp then quotient.floor + 1 else quotient.floor

def lastPlace (quotient : Quotient) : Int :=
  max (-1074) (quotient.binaryOrder - 52)

theorem rounded_congr {first second : Quotient} (equal : first.value = second.value) :
    first.rounded = second.rounded := by
  have floors : first.floor = second.floor := by rw [floor_eq, floor_eq, equal]
  have roundings : first.RoundsUp ↔ second.RoundsUp := by rw [RoundsUp, RoundsUp, equal, floors]
  simp only [rounded, roundings, floors]

theorem le_rounded {whole : Nat} (reached : whole ≤ quotient.value) :
    whole ≤ quotient.rounded := by
  have least := le_floor reached
  rw [rounded]
  split_ifs <;> omega

theorem rounded_of_le_half (small : quotient.value ≤ 1 / 2) : quotient.rounded = 0 := by
  have floor : quotient.floor = 0 := by
    rw [floor_eq, Nat.floor_eq_zero]
    linarith
  have down : ¬quotient.RoundsUp := by
    rw [RoundsUp, floor, halfPlace, not_le]
    norm_num
    linarith
  rw [rounded, if_neg down, floor]

section

variable (positive : 0 < quotient.numerator) (bottom : 0 < quotient.denominator)

include positive bottom

theorem nearest_scale_le : (quotient.scale 2 (-quotient.lastPlace)).nearest ≤ 2 ^ 53 := by
  have high := (binaryOrder_spec positive bottom).2
  have place : quotient.binaryOrder - 52 ≤ quotient.lastPlace := le_max_right _ _
  have unit : (0 : ℚ) < 2 ^ (-quotient.lastPlace) := zpow_pos (by norm_num) _
  have scaled : (quotient.scale 2 (-quotient.lastPlace)).value < (2 ^ 53 : Nat) := by
    rw [value_scale]
    calc quotient.value * (2 : Nat) ^ (-quotient.lastPlace)
        < 2 ^ (quotient.binaryOrder + 1) * 2 ^ (-quotient.lastPlace) :=
          mul_lt_mul_of_pos_right high unit
      _ = 2 ^ (quotient.binaryOrder + 1 - quotient.lastPlace) := by
        rw [← zpow_add₀ two_ne_zero, sub_eq_add_neg]
      _ ≤ 2 ^ (53 : Int) := zpow_le_zpow_right₀ (by norm_num) (by omega)
      _ = (2 ^ 53 : Nat) := by norm_num
  exact nearest_le.trans (floor_lt scaled)

theorem le_nearest_scale (normal : -1074 < quotient.lastPlace) :
    2 ^ 52 ≤ (quotient.scale 2 (-quotient.lastPlace)).nearest := by
  have low := (binaryOrder_spec positive bottom).1
  have place : quotient.lastPlace = quotient.binaryOrder - 52 := by
    rw [lastPlace] at normal ⊢
    omega
  have unit : (0 : ℚ) < 2 ^ (-quotient.lastPlace) := zpow_pos (by norm_num) _
  rw [le_nearest_iff (denominator_scale_pos bottom (by decide) _) (by norm_num),
    value_scale]
  calc ((2 ^ 52 : Nat) - 1 / 2 : ℚ) ≤ 2 ^ (52 : Int) := by norm_num
    _ = 2 ^ quotient.binaryOrder * 2 ^ (-quotient.lastPlace) := by
      rw [← zpow_add₀ two_ne_zero]
      congr 1
      omega
    _ ≤ quotient.value * (2 : Nat) ^ (-quotient.lastPlace) :=
      mul_le_mul_of_nonneg_right low unit.le

private theorem roundsUp_iff {places : Nat} (place : (places : Int) + 1 = -quotient.lastPlace) :
    quotient.RoundsUp ↔ (quotient.floor : ℚ) + 1 - 1 / 2 ^ (places + 2) ≤ quotient.value := by
  rcases binaryOrder_spec positive bottom with ⟨low, high⟩
  rw [lastPlace] at place
  rw [RoundsUp, halfPlace, sub_le_comm]
  generalize quotient.binaryOrder = order at *
  rcases Int.lt_trichotomy order (-1) with below | equal | above
  · -- Below a half, more is missing than any place is worth.
    have half : quotient.value < 1 / 2 := by
      calc quotient.value < 2 ^ (order + 1) := high
        _ ≤ 2 ^ (-1 : Int) := zpow_le_zpow_right₀ (by norm_num) (by omega)
        _ = 1 / 2 := by norm_num
    have empty : quotient.floor = 0 := by
      rw [floor_eq, Nat.floor_eq_zero]
      linarith
    have least : (1 : ℚ) / 2 ^ (places + 2) ≤ 1 / 4 := by
      refine one_div_le_one_div_of_le (by norm_num) ?_
      calc (4 : ℚ) = 2 ^ 2 := by norm_num
        _ ≤ 2 ^ (places + 2) := pow_le_pow_right₀ (by norm_num) (by omega)
    have size : (2 : ℚ) ^ quotient.floor.size / 2 ^ 54 ≤ 1 / 4 := by
      rw [empty]
      norm_num
    constructor <;> intro reached <;> rw [empty] at * <;> push_cast at * <;> linarith
  · subst equal
    have empty : quotient.floor = 0 := by
      rw [floor_eq, Nat.floor_eq_zero]
      simpa using high
    have fitted : places = 52 := by omega
    rw [empty, fitted]
    norm_num
  · obtain ⟨natural, rfl⟩ := Int.eq_ofNat_of_zero_le (show 0 ≤ order by omega)
    have fitted : 54 = natural + 1 + (places + 2) := by omega
    rw [size_floor (by exact_mod_cast low) (by exact_mod_cast high), fitted,
      pow_add _ (natural + 1), ← div_div, div_self (by positivity)]

theorem nearest_scale_div {places : Nat} (place : (places : Int) + 1 = -quotient.lastPlace) :
    (quotient.scale 2 (places + 1 : Nat)).nearest / 2 ^ (places + 1) = quotient.rounded := by
  have half_pos : (0 : ℚ) < 1 / 2 ^ (places + 2) := by positivity
  have half_lt : (1 : ℚ) / 2 ^ (places + 2) < 1 := by
    rw [div_lt_one (by positivity)]
    exact one_lt_pow₀ (by norm_num) (by omega)
  have reaches (whole : Nat) :
      whole ≤ (quotient.scale 2 (places + 1 : Nat)).nearest / 2 ^ (places + 1) ↔
        (whole : ℚ) - 1 / 2 ^ (places + 2) ≤ quotient.value := by
    rw [Nat.le_div_iff_mul_le (Nat.pow_pos (by decide)), le_nearest_scale_iff bottom]
  generalize (quotient.scale 2 (places + 1 : Nat)).nearest / 2 ^ (places + 1) = whole at reaches ⊢
  have least : quotient.floor ≤ whole :=
    (reaches quotient.floor).mpr (by linarith [@floor_le quotient])
  have most : ¬quotient.floor + 2 ≤ whole := by
    rw [reaches]
    push_cast
    linarith [@lt_floor_add_one quotient]
  have next := reaches (quotient.floor + 1)
  rw [Nat.cast_add_one, ← roundsUp_iff positive bottom place] at next
  rw [rounded]
  split_ifs with up
  · have := next.mpr up
    omega
  · have := next.not.mpr up
    omega

end

end Quotient

/-! ## The bits of the nearest double -/

/-- A significand that fills up its places carries into the exponent. -/
theorem read_double {field significand : Nat} (small : significand ≤ 2 ^ 53)
    (normal : 0 < field → 2 ^ 52 ≤ significand)
    (finite : field * 2 ^ 52 + significand < 2047 * 2 ^ 52) :
    ∃ left exponent, BinaryFormat.double.read (field * 2 ^ 52 + significand) =
        ⟨false, .finite left exponent⟩ ∧
      (Quotient.scale ⟨left, 1⟩ 2 exponent).value = significand * 2 ^ ((field : Int) - 1074) := by
  have unsigned : (field * 2 ^ 52 + significand) % 2 ^ 63 = field * 2 ^ 52 + significand :=
    Nat.mod_eq_of_lt (by omega)
  have positive : decide (2 ^ 63 ≤ field * 2 ^ 52 + significand) = false :=
    decide_eq_false (by omega)
  have value := Quotient.value_scale_one 2
  rw [BinaryFormat.double_read, unsigned, positive, if_neg (by omega), if_neg (by omega)]
  rcases Nat.lt_or_ge significand (2 ^ 52) with subnormal | least
  · have bottom : field = 0 := by
      by_contra above
      have := normal (Nat.pos_of_ne_zero above)
      omega
    subst bottom
    rw [Nat.zero_mul, Nat.zero_add, Nat.div_eq_of_lt subnormal, Nat.mod_eq_of_lt subnormal,
      if_pos rfl]
    exact ⟨_, _, rfl, value _ _⟩
  · rcases Nat.lt_or_ge significand (2 ^ 53) with within | filled
    · have upper : (field * 2 ^ 52 + significand) / 2 ^ 52 = field + 1 := by omega
      have lower : 2 ^ 52 + (field * 2 ^ 52 + significand) % 2 ^ 52 = significand := by omega
      rw [upper, lower, if_neg (Nat.succ_ne_zero _)]
      refine ⟨_, _, rfl, (value _ _).trans ?_⟩
      congr 2
      omega
    · have equal : significand = 2 ^ 53 := Nat.le_antisymm small filled
      subst equal
      have upper : (field * 2 ^ 52 + 2 ^ 53) / 2 ^ 52 = field + 2 := by omega
      have lower : (field * 2 ^ 52 + 2 ^ 53) % 2 ^ 52 = 0 := by omega
      have carried :
          (-1074 : Int) + ((field + 2 : Nat) : Int) - 1 = 1 + ((field : Int) - 1074) := by omega
      rw [upper, lower, if_neg (Nat.succ_ne_zero _)]
      refine ⟨_, _, rfl, (value _ _).trans ?_⟩
      rw [carried, Nat.cast_ofNat, zpow_add₀ two_ne_zero]
      push_cast
      ring

namespace Quotient

variable {quotient : Quotient} (positive : 0 < quotient.numerator)
  (bottom : 0 < quotient.denominator)

include positive bottom

private theorem read_nearestBits :
    (∃ left exponent, BinaryFormat.double.read (BinaryFormat.double.nearestBits quotient) =
        ⟨false, .finite left exponent⟩ ∧
      (Quotient.scale ⟨left, 1⟩ 2 exponent).value =
        (quotient.scale 2 (-quotient.lastPlace)).nearest * 2 ^ quotient.lastPlace) ∨
      BinaryFormat.double.nearestBits quotient = BinaryFormat.double.infinityBits ∧
        32 ≤ quotient.binaryOrder := by
  have bits : BinaryFormat.double.nearestBits quotient = min (2047 * 2 ^ 52)
      ((quotient.lastPlace - -1074).toNat * 2 ^ 52 +
        (quotient.scale 2 (-quotient.lastPlace)).nearest) :=
    if_neg positive.ne'
  have small := nearest_scale_le positive bottom
  have least : -1074 ≤ quotient.lastPlace := le_max_left _ _
  have field : ((quotient.lastPlace - -1074).toNat : Int) - 1074 = quotient.lastPlace := by omega
  rw [bits]
  by_cases finite : (quotient.lastPlace - -1074).toNat * 2 ^ 52 +
      (quotient.scale 2 (-quotient.lastPlace)).nearest < 2047 * 2 ^ 52
  · rw [Nat.min_eq_right finite.le]
    have read := read_double small (fun above => le_nearest_scale positive bottom (by omega)) finite
    rw [field] at read
    exact .inl read
  · refine .inr ⟨Nat.min_eq_left (Nat.le_of_not_lt finite), ?_⟩
    have large : 32 - 52 ≤ quotient.lastPlace := by omega
    rw [lastPlace] at large
    omega

end Quotient

/-- A quotient that is rounded to a double keeps its whole number, unless what is missing to
the next one is lost. -/
theorem whole_nearestBits {quotient : Quotient} (bottom : 0 < quotient.denominator) :
    (BinaryFormat.double.read (BinaryFormat.double.nearestBits quotient)).whole =
      min (UInt32.size - 1) quotient.rounded := by
  rcases Nat.eq_zero_or_pos quotient.numerator with zero | positive
  · have small : quotient.value ≤ 1 / 2 := by simp [Quotient.value, zero]
    rw [BinaryFormat.nearestBits, if_pos zero, whole_zero, Quotient.rounded_of_le_half small,
      Nat.min_zero]
  have low := (Quotient.binaryOrder_spec positive bottom).1
  have large (above : 32 ≤ quotient.binaryOrder) :
      ((UInt32.size - 1 : Nat) : ℚ) ≤ 2 ^ quotient.binaryOrder := by
    calc ((UInt32.size - 1 : Nat) : ℚ) ≤ 2 ^ (32 : Int) := by norm_num [UInt32.size]
      _ ≤ 2 ^ quotient.binaryOrder := zpow_le_zpow_right₀ (by norm_num) above
  rcases Quotient.read_nearestBits positive bottom with
    ⟨left, exponent, read, value⟩ | ⟨infinite, above⟩
  · rw [read, whole_finite]
    rcases lt_or_ge quotient.binaryOrder 32 with within | above
    · obtain ⟨places, place⟩ : ∃ places : Nat, (places : Int) + 1 = -quotient.lastPlace :=
        ⟨(-quotient.lastPlace - 1).toNat, by rw [Quotient.lastPlace]; omega⟩
      have back : quotient.lastPlace = -(places + 1 : Nat) := by omega
      rw [back, neg_neg, zpow_neg, zpow_natCast, ← div_eq_mul_inv] at value
      rw [Quotient.floor_eq, value, ← Quotient.nearest_scale_div positive bottom place]
      exact_mod_cast
        congrArg (min (UInt32.size - 1)) (Nat.floor_div_eq_div (K := ℚ) _ (2 ^ (places + 1)))
    · have place : quotient.lastPlace = quotient.binaryOrder - 52 := by
        rw [Quotient.lastPlace]
        omega
      have least := Quotient.le_nearest_scale positive bottom (by omega)
      have reached :
          (2 : ℚ) ^ quotient.binaryOrder ≤ (Quotient.scale ⟨left, 1⟩ 2 exponent).value := by
        have split : quotient.binaryOrder = 52 + quotient.lastPlace := by omega
        rw [value, split, zpow_add₀ two_ne_zero]
        gcongr
        exact_mod_cast least
      rw [Nat.min_eq_left (Quotient.le_floor ((large above).trans reached)),
        Nat.min_eq_left (Quotient.le_rounded ((large above).trans low))]
  · rw [infinite, whole_infinityBits,
      Nat.min_eq_left (Quotient.le_rounded ((large above).trans low))]

/-! ## Decimal numbers -/

private theorem lt_pow_length_toDigits (value : Nat) :
    value < 10 ^ (Nat.toDigits 10 value).length :=
  (Nat.length_toDigits_le_iff (by decide) Nat.length_toDigits_pos).mp (Nat.le_refl _)

private theorem pow_length_toDigits_le {value : Nat} (positive : 0 < value) :
    10 ^ ((Nat.toDigits 10 value).length - 1) ≤ value := by
  by_contra below
  rcases Nat.eq_zero_or_pos ((Nat.toDigits 10 value).length - 1) with zero | some
  · rw [zero] at below
    omega
  · have shorter := (Nat.length_toDigits_le_iff (by decide) some).mpr (Nat.lt_of_not_le below)
    omega

namespace Decimal

def whole : Decimal → Nat
  | .finite negative coefficient exponent =>
      if negative then 0
      else min (UInt32.size - 1) (Quotient.scale ⟨coefficient, 1⟩ 10 exponent).rounded
  | .infinite negative => if negative then 0 else UInt32.size - 1
  | .notANumber => 0

private theorem bits_negative (coefficient : Nat) (exponent : Int) :
    (Decimal.finite true coefficient exponent).bits .double =
      BinaryFormat.double.signBit + (Decimal.finite false coefficient exponent).bits .double := by
  simp only [bits, bits.signed, if_true, Bool.false_eq_true, if_false]

private theorem bits_finite_le (coefficient : Nat) (exponent : Int) :
    (Decimal.finite false coefficient exponent).bits .double ≤
      BinaryFormat.double.infinityBits := by
  simp only [bits, bits.signed, Bool.false_eq_true, if_false]
  split_ifs with _ _
  · exact Nat.zero_le _
  · exact Nat.le_refl _
  · rw [BinaryFormat.nearestBits]
    split_ifs with _
    · exact Nat.zero_le _
    · exact Nat.min_le_left _ _

private theorem whole_bits_finite (coefficient : Nat) (exponent : Int) :
    (BinaryFormat.double.read ((Decimal.finite false coefficient exponent).bits .double)).whole =
      (Decimal.finite false coefficient exponent).whole := by
  have value := Quotient.value_scale_one 10 coefficient exponent
  have unit : (0 : ℚ) < 10 ^ exponent := zpow_pos (by norm_num) _
  have reach : reach = 400 := rfl
  simp only [bits, bits.signed, Bool.false_eq_true, if_false, whole, reach]
  split_ifs with small large
  · have half : (Quotient.scale ⟨coefficient, 1⟩ 10 exponent).value ≤ 1 / 2 := by
      rw [value]
      rcases small with rfl | small
      · norm_num
      have most : (coefficient : ℚ) < 10 ^ ((Nat.toDigits 10 coefficient).length : Int) := by
        exact_mod_cast lt_pow_length_toDigits coefficient
      calc (coefficient * 10 ^ exponent : ℚ)
          ≤ 10 ^ ((Nat.toDigits 10 coefficient).length : Int) * 10 ^ exponent := by gcongr
        _ = 10 ^ (exponent + (Nat.toDigits 10 coefficient).length) := by
          rw [← zpow_add₀ (by norm_num), add_comm]
        _ ≤ 10 ^ (-1 : Int) := zpow_le_zpow_right₀ (by norm_num) (by omega)
        _ ≤ 1 / 2 := by norm_num
    rw [whole_zero, Quotient.rounded_of_le_half half, Nat.min_zero]
  · have positive : 0 < coefficient := by omega
    have length := Nat.length_toDigits_pos (b := 10) (n := coefficient)
    have least :
        (10 : ℚ) ^ (((Nat.toDigits 10 coefficient).length - 1 : Nat) : Int) ≤ coefficient := by
      exact_mod_cast pow_length_toDigits_le positive
    have reached : ((UInt32.size - 1 : Nat) : ℚ) ≤
        (Quotient.scale ⟨coefficient, 1⟩ 10 exponent).value := by
      rw [value]
      calc ((UInt32.size - 1 : Nat) : ℚ) ≤ 10 ^ (10 : Int) := by norm_num [UInt32.size]
        _ ≤ 10 ^ ((((Nat.toDigits 10 coefficient).length - 1 : Nat) : Int) + exponent) :=
          zpow_le_zpow_right₀ (by norm_num) (by omega)
        _ = 10 ^ (((Nat.toDigits 10 coefficient).length - 1 : Nat) : Int) * 10 ^ exponent :=
          zpow_add₀ (by norm_num) _ _
        _ ≤ coefficient * 10 ^ exponent := by gcongr
    rw [whole_infinityBits, Nat.min_eq_left (Quotient.le_rounded reached)]
  · exact whole_nearestBits (Quotient.denominator_scale_pos Nat.one_pos (by decide) _)

theorem toNat_toUInt32_toDouble (decimal : Decimal) :
    decimal.toDouble.toUInt32.toNat = decimal.whole := by
  have signBit : BinaryFormat.double.signBit = 2 ^ 63 := rfl
  have infinityBits : BinaryFormat.double.infinityBits = 2047 * 2 ^ 52 := rfl
  rw [toDouble, toNat_toUInt32_ofBits, UInt64.toNat_ofNat']
  cases decimal with
  | finite negative coefficient exponent =>
      have bound := bits_finite_le coefficient exponent
      cases negative with
      | false => rw [Nat.mod_eq_of_lt (by omega), whole_bits_finite]
      | true =>
          rw [bits_negative, Nat.mod_eq_of_lt (by omega),
            whole_of_signBit_le (Nat.le_add_right _ _)]
          rfl
  | infinite negative =>
      rw [Nat.mod_eq_of_lt (by cases negative <;> decide), bits]
      cases negative with
      | false => exact whole_infinityBits
      | true => exact whole_of_signBit_le (Nat.le_add_right _ _)
  | notANumber =>
      rw [Nat.mod_eq_of_lt (by decide), bits, whole_notANumberBits]
      rfl

end Decimal

end ReceiverLog.Number
