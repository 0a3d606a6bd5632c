import Mathlib.Tactic.Ring
import ReceiverLog.Number.Binary

namespace ReceiverLog.Number

/-! The bits of a double, as they are read here and as the built-in type of doubles takes
them; and the whole number that is left of a double when its fraction is cut off. -/

open Float.Model (Format)
open Float.Model.UnpackedFloat

theorem BinaryFormat.double_read (bits : Nat) :
    double.read bits = {
      negative := decide (2 ^ 63 ≤ bits)
      magnitude :=
        if bits % 2 ^ 63 = 2047 * 2 ^ 52 then .infinite
        else if 2047 * 2 ^ 52 < bits % 2 ^ 63 then .notANumber
        else if bits % 2 ^ 63 / 2 ^ 52 = 0 then .finite (bits % 2 ^ 63 % 2 ^ 52) (-1074)
        else .finite (2 ^ 52 + bits % 2 ^ 63 % 2 ^ 52)
          (-1074 + ((bits % 2 ^ 63 / 2 ^ 52 : Nat) : Int) - 1) } :=
  rfl

/-! ## Sign, exponent and fraction -/

theorem toNat_append {high low : Nat} (first : BitVec high) (second : BitVec low) :
    (first ++ second).toNat = first.toNat * 2 ^ low + second.toNat := by
  rw [BitVec.toNat_append, ← Nat.shiftLeft_add_eq_or_of_lt second.isLt, Nat.shiftLeft_eq]

theorem exists_packComponents (bits : BitVec 64) :
    ∃ sign exponent mantissa, packComponents .binary64 sign exponent mantissa = bits := by
  have bound := bits.isLt
  have signed (bit : BitVec 1) : (Sign.ofBitVec bit).toBitVec = bit := by
    revert bit
    decide
  refine ⟨.ofBitVec (BitVec.ofNat 1 (bits.toNat / 2 ^ 63)), BitVec.ofNat 11 (bits.toNat / 2 ^ 52),
    BitVec.ofNat 52 bits.toNat, BitVec.eq_of_toNat_eq ?_⟩
  rw [packComponents, signed, toNat_append, toNat_append]
  simp only [BitVec.toNat_ofNat]
  omega

section

variable {sign : Sign} {exponent : BitVec 11} {mantissa : BitVec 52}

theorem toNat_packComponents : (packComponents .binary64 sign exponent mantissa).toNat =
    sign.toBitVec.toNat * 2 ^ 63 + exponent.toNat * 2 ^ 52 + mantissa.toNat := by
  rw [packComponents, toNat_append, toNat_append]
  ring

private theorem unpackSign_packComponents :
    unpackSign (packComponents .binary64 sign exponent mantissa) = sign.toBitVec := by
  change BitVec.extractLsb' 63 1 (sign.toBitVec ++ exponent ++ mantissa) = sign.toBitVec
  rw [BitVec.extractLsb'_append_eq_of_le (by decide),
    BitVec.extractLsb'_append_eq_of_le (by decide)]
  cases sign <;> rfl

private theorem toNat_pos_of_ne (some : mantissa ≠ 0#52) : 0 < mantissa.toNat := by
  simpa [BitVec.toNat_pos, BitVec.pos_iff_ne_zero] using some

theorem toNat_one_append : (1#1 ++ mantissa).toNat = 2 ^ 52 + mantissa.toNat := by
  rw [toNat_append]
  rfl

private theorem toNat_one_append_pos : 0 < (1#1 ++ mantissa).toNat := by
  rw [toNat_one_append]
  omega

private theorem unpack_binary64 (bits : BitVec Format.binary64.numBits) :
    unpack .binary64 bits =
      (let sign := Sign.ofBitVec (unpackSign bits)
      let exponent : BitVec 11 := unpackExponent bits
      let mantissa : BitVec 52 := unpackMantissa bits
      if exponent = -1#11 then
        if mantissa = 0#52 then .infinity sign else .notANumber
      else if exponent = 0#11 then
        if empty : mantissa = 0#52 then .zero sign
        else .finite sign mantissa.toNat (exponent.toNat - 1075 + 1) (toNat_pos_of_ne empty)
      else .finite sign (1#1 ++ mantissa).toNat (exponent.toNat - 1075) toNat_one_append_pos) :=
  rfl

theorem unpack_packComponents :
    unpack .binary64 (packComponents .binary64 sign exponent mantissa) =
      if exponent = -1#11 then
        if mantissa = 0#52 then .infinity sign else .notANumber
      else if exponent = 0#11 then
        if empty : mantissa = 0#52 then .zero sign
        else .finite sign mantissa.toNat (-1074) (toNat_pos_of_ne empty)
      else .finite sign (1#1 ++ mantissa).toNat (exponent.toNat - 1075) toNat_one_append_pos := by
  have signed : Sign.ofBitVec sign.toBitVec = sign := by cases sign <;> rfl
  rw [unpack_binary64, unpackExponent_packComponents, unpackMantissa_packComponents,
    unpackSign_packComponents, signed]
  dsimp only
  by_cases least : exponent = 0#11
  · subst least
    rfl
  · rw [if_neg least, if_neg least]

private theorem pack_finite (significand : Nat) (exponent : Int) (positive : 0 < significand) :
    pack .binary64 (.finite sign significand exponent positive) =
      if 2 ^ 11 ≤ (exponent + 1023 + 52).toNat + 1 then packedInfinity .binary64 sign
      else if significand.log2 + 1 = 53 then
        packComponents .binary64 sign (.ofNat 11 (exponent + 1023 + 52).toNat)
          (.ofNat 52 significand)
      else packComponents .binary64 sign 0#11 (.ofNat 52 significand) :=
  rfl

theorem pack_unpack
    (number : unpack .binary64 (packComponents .binary64 sign exponent mantissa) ≠ .notANumber) :
    pack .binary64 (unpack .binary64 (packComponents .binary64 sign exponent mantissa)) =
      packComponents .binary64 sign exponent mantissa := by
  have small := mantissa.isLt
  rw [unpack_packComponents] at number ⊢
  by_cases top : exponent = -1#11
  · rw [if_pos top] at number ⊢
    have empty : mantissa = 0#52 := Decidable.not_not.mp fun some => number (if_neg some)
    rw [if_pos empty]
    subst top empty
    cases sign <;> rfl
  rw [if_neg top]
  by_cases bottom : exponent = 0#11
  · rw [if_pos bottom]
    by_cases empty : mantissa = 0#52
    · rw [dif_pos empty]
      subst bottom empty
      cases sign <;> rfl
    · have order : mantissa.toNat.log2 < 52 :=
        (Nat.log2_lt (toNat_pos_of_ne empty).ne').mpr small
      have subnormal : mantissa.toNat.log2 + 1 ≠ 53 := by omega
      rw [dif_neg empty, pack_finite, if_neg (by decide), if_neg subnormal, bottom,
        BitVec.ofNat_toNat, BitVec.setWidth_eq]
  · have order : (2 ^ 52 + mantissa.toNat).log2 = 52 :=
      (Nat.log2_eq_iff (by omega)).mpr (by omega)
    have cut : BitVec.ofNat 52 (2 ^ 52 + mantissa.toNat) = mantissa := by
      apply BitVec.eq_of_toNat_eq
      rw [BitVec.toNat_ofNat, Nat.add_mod_left, Nat.mod_eq_of_lt small]
    have below : exponent.toNat ≠ 2047 := fun equal => top (BitVec.eq_of_toNat_eq equal)
    have narrow := exponent.isLt
    have biased : ((exponent.toNat : Int) - 1075 + 1023 + 52).toNat = exponent.toNat := by omega
    rw [if_neg bottom, pack_finite, biased, if_neg (by omega), toNat_one_append, order,
      if_pos rfl, cut, BitVec.ofNat_toNat, BitVec.setWidth_eq]

end

/-- All bits that stand for no number are taken for the same one, and all others are kept. -/
theorem unpack_ofBits (bits : UInt64) :
    (Float.Model.ofBits bits).unpack = unpack .binary64 bits.toBitVec := by
  rcases exists_packComponents bits.toBitVec with ⟨sign, exponent, mantissa, parts⟩
  rw [Float.Model.ofBits, Float.Model.unpack, Float.Model.pack, ← parts]
  by_cases none :
      unpack .binary64 (packComponents .binary64 sign exponent mantissa) = .notANumber
  · rw [none]
    rfl
  · exact congrArg _ (pack_unpack none)

private theorem read_packComponents {sign : Sign} {exponent : BitVec 11} {mantissa : BitVec 52} :
    BinaryFormat.double.read (packComponents .binary64 sign exponent mantissa).toNat = {
      negative := sign == .negative
      magnitude :=
        if exponent.toNat = 2047 then if mantissa.toNat = 0 then .infinite else .notANumber
        else if exponent.toNat = 0 then .finite mantissa.toNat (-1074)
        else .finite (2 ^ 52 + mantissa.toNat) (exponent.toNat - 1075) } := by
  have small := mantissa.isLt
  have narrow := exponent.isLt
  have signed : (sign.toBitVec.toNat = 0 ∧ (sign == .negative) = false) ∨
      (sign.toBitVec.toNat = 1 ∧ (sign == .negative) = true) := by
    cases sign
    · exact .inr ⟨rfl, rfl⟩
    · exact .inl ⟨rfl, rfl⟩
  rw [toNat_packComponents]
  generalize sign.toBitVec.toNat = bit at signed ⊢
  have unsigned : (bit * 2 ^ 63 + exponent.toNat * 2 ^ 52 + mantissa.toNat) % 2 ^ 63 =
      exponent.toNat * 2 ^ 52 + mantissa.toNat := by omega
  have field : (exponent.toNat * 2 ^ 52 + mantissa.toNat) / 2 ^ 52 = exponent.toNat := by omega
  have fraction : (exponent.toNat * 2 ^ 52 + mantissa.toNat) % 2 ^ 52 = mantissa.toNat := by
    rw [Nat.mul_add_mod', Nat.mod_eq_of_lt small]
  rw [BinaryFormat.double_read, unsigned, field, fraction]
  congr 1
  · rcases signed with ⟨_, positive⟩ | ⟨_, negative⟩
    · rw [positive, decide_eq_false_iff_not]
      omega
    · rw [negative, decide_eq_true_iff]
      omega
  · by_cases top : exponent.toNat = 2047
    · rw [top, if_pos rfl]
      split_ifs <;> first | rfl | omega
    · rw [if_neg (by omega), if_neg (by omega), if_neg top]
      split_ifs with bottom
      · rfl
      · congr 1
        omega

/-! ## Whole numbers -/

/-- What is left of a number without its fraction, in 32 bits. Of numbers below zero and of
those that are no number nothing is left, and of those that are too large the greatest. -/
def SignedMagnitude.whole (number : SignedMagnitude) : Nat :=
  if number.negative then 0
  else
    match number.magnitude with
    | .finite significand exponent =>
        min (UInt32.size - 1) (Quotient.scale ⟨significand, 1⟩ 2 exponent).floor
    | .infinite => UInt32.size - 1
    | .notANumber => 0

theorem whole_finite (significand : Nat) (exponent : Int) :
    SignedMagnitude.whole ⟨false, .finite significand exponent⟩ =
      min (UInt32.size - 1) (Quotient.scale ⟨significand, 1⟩ 2 exponent).floor :=
  rfl

theorem whole_of_signBit_le {bits : Nat} (negative : BinaryFormat.double.signBit ≤ bits) :
    (BinaryFormat.double.read bits).whole = 0 := by
  simp only [BinaryFormat.read, SignedMagnitude.whole, decide_eq_true negative, if_true]

private theorem Quotient.floor_scale_zero (base : Nat) (exponent : Int) :
    (Quotient.scale ⟨0, 1⟩ base exponent).floor = 0 := by
  cases exponent with
  | ofNat count => exact (congrArg (· / 1) (Nat.zero_mul _)).trans (Nat.zero_div _)
  | negSucc count => exact Nat.zero_div _

theorem whole_finite_zero (negative : Bool) (exponent : Int) :
    SignedMagnitude.whole ⟨negative, .finite 0 exponent⟩ = 0 := by
  cases negative with
  | true => rfl
  | false => rw [whole_finite, Quotient.floor_scale_zero, Nat.min_zero]

theorem whole_zero : (BinaryFormat.double.read 0).whole = 0 := by
  have read : BinaryFormat.double.read 0 = ⟨false, .finite 0 (-1074)⟩ := by decide
  rw [read, whole_finite_zero]

theorem whole_infinityBits :
    (BinaryFormat.double.read BinaryFormat.double.infinityBits).whole = UInt32.size - 1 := by
  have read : BinaryFormat.double.read BinaryFormat.double.infinityBits = ⟨false, .infinite⟩ := by
    decide
  rw [read]
  rfl

theorem whole_notANumberBits :
    (BinaryFormat.double.read BinaryFormat.double.notANumberBits).whole = 0 := by
  have read :
      BinaryFormat.double.read BinaryFormat.double.notANumberBits = ⟨false, .notANumber⟩ := by
    decide
  rw [read]
  rfl

private theorem mantissa_shiftRight (mantissa count : Nat) :
    ((⟨mantissa, false, false⟩ : ExtendedMantissa) >>> count).mantissa = mantissa / 2 ^ count := by
  induction count with
  | zero => exact (Nat.div_one _).symm
  | succ count induction =>
      change ((⟨mantissa, false, false⟩ : ExtendedMantissa) >>> count).mantissa / 2 = _
      rw [induction, Nat.div_div_eq_div_mul, ← Nat.pow_succ]

private theorem roundToInt_eq (sign : Sign) (mantissa : Nat) (exponent : Int) :
    roundToInt sign mantissa exponent =
      sign.apply ((Quotient.scale ⟨mantissa, 1⟩ 2 exponent).floor : Int) := by
  cases exponent <;>
    simp [roundToInt, decreaseExponent, shiftToExponent, ExtendedMantissa.ofMantissaAndAccuracy,
      mantissa_shiftRight, Quotient.scale, Quotient.floor, power, Nat.shiftLeft_eq]

private theorem toNat_ofNatClamp (number : Nat) :
    (UInt32.ofNatClamp number).toNat = min (UInt32.size - 1) number := by
  rw [UInt32.ofNatClamp]
  split
  · next inside => exact (Nat.min_eq_right (Nat.le_sub_one_of_lt inside)).symm
  · next outside =>
      exact (Nat.min_eq_left ((Nat.sub_le _ _).trans (Nat.le_of_not_lt outside))).symm

private theorem toNat_toUInt32_finite (sign : Sign) (significand : Nat) (exponent : Int)
    (positive : 0 < significand) :
    (toUInt32 (.finite sign significand exponent positive)).toNat =
      SignedMagnitude.whole ⟨sign == .negative, .finite significand exponent⟩ := by
  change (UInt32.ofNatClamp (roundToInt sign significand exponent).toNat).toNat = _
  rw [toNat_ofNatClamp, roundToInt_eq]
  cases sign with
  | negative =>
      have nothing :
          (-((Quotient.scale ⟨significand, 1⟩ 2 exponent).floor : Int)).toNat = 0 := by omega
      exact (congrArg (min _) nothing).trans (Nat.min_zero _)
  | positive => rfl

theorem toNat_toUInt32_ofBits (bits : UInt64) :
    (Float.ofBits bits).toUInt32.toNat = (BinaryFormat.double.read bits.toNat).whole := by
  rcases exists_packComponents bits.toBitVec with ⟨sign, exponent, mantissa, parts⟩
  have unpacked : (Float.ofBits bits).toUInt32 = (unpack .binary64 bits.toBitVec).toUInt32 :=
    congrArg toUInt32 (unpack_ofBits bits)
  have top : exponent = -1#11 ↔ exponent.toNat = 2047 := BitVec.toNat_inj.symm
  have bottom : exponent = 0#11 ↔ exponent.toNat = 0 := BitVec.toNat_inj.symm
  have empty : mantissa = 0#52 ↔ mantissa.toNat = 0 := BitVec.toNat_inj.symm
  rw [unpacked, ← UInt64.toNat_toBitVec, ← parts, unpack_packComponents, read_packComponents]
  by_cases full : exponent = -1#11
  · rw [if_pos full, if_pos (top.mp full)]
    by_cases blank : mantissa = 0#52
    · rw [if_pos blank, if_pos (empty.mp blank)]
      cases sign <;> rfl
    · rw [if_neg blank, if_neg (mt empty.mpr blank)]
      cases sign <;> rfl
  · rw [if_neg full, if_neg (mt top.mpr full)]
    by_cases least : exponent = 0#11
    · rw [if_pos least, if_pos (bottom.mp least)]
      by_cases blank : mantissa = 0#52
      · rw [dif_pos blank, empty.mp blank, whole_finite_zero]
        rfl
      · rw [dif_neg blank, toNat_toUInt32_finite]
    · rw [if_neg least, if_neg (mt bottom.mpr least), toNat_toUInt32_finite, toNat_one_append]

end ReceiverLog.Number
