import Mathlib.Algebra.Order.Field.Power
import Mathlib.Algebra.Order.Floor.Semifield
import Mathlib.Data.Rat.Floor
import ReceiverLog.Number.Whole
import ReceiverLog.Proofs.Number.Doubles

namespace ReceiverLog.Number

/-! What is left of a double without its fraction, by the exact values of both. -/

open Float.Model.UnpackedFloat

/-- The greatest whole number that is not further from zero, on the same side of it. What is
not finite has no fraction. -/
inductive IsWholePart (number whole : Float) : Prop
  | finite {negative : Bool} {significand left : Nat} {exponent place : Int}
      (read : BinaryFormat.double.read number.toBits.toNat =
        ⟨negative, .finite significand exponent⟩)
      (readWhole : BinaryFormat.double.read whole.toBits.toNat = ⟨negative, .finite left place⟩)
      (cut : (left * 2 ^ place : ℚ) = ⌊(significand * 2 ^ exponent : ℚ)⌋₊) :
      IsWholePart number whole
  | unlimited
      (unlimited : ∀ significand exponent,
        (BinaryFormat.double.read number.toBits.toNat).magnitude ≠ .finite significand exponent)
      (same : whole = number) : IsWholePart number whole

/-! ## Bits -/

section

variable {number : Float}

end

end ReceiverLog.Number
