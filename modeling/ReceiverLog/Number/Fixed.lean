import ReceiverLog.Number.Binary

namespace ReceiverLog.Number

/-! Numbers with a fixed count of decimal places, rounded once from their
exact value; a half goes to the even neighbour. A sign is kept even where all
digits are zero. -/

def decimalDigits (value : Nat) : List Char :=
  Nat.toDigits 10 value

def pointed (places : Nat) (digits : List Char) : List Char :=
  if places = 0 then digits
  else
    let padded := List.replicate (places + 1 - digits.length) '0' ++ digits
    padded.take (padded.length - places) ++ '.' :: padded.drop (padded.length - places)

namespace Magnitude

def fixed (places : Nat) : Magnitude → List Char
  | .notANumber => "NaN".toList
  | .infinite => "inf".toList
  | .finite significand exponent =>
      let scaled := (Quotient.scale ⟨significand, 1⟩ 2 exponent).scale 10 places
      pointed places (decimalDigits scaled.nearest)

end Magnitude

namespace SignedMagnitude

def fixed (places : Nat) (number : SignedMagnitude) : List Char :=
  if number.negative && number.magnitude != .notANumber then
    '-' :: number.magnitude.fixed places
  else number.magnitude.fixed places

end SignedMagnitude

def doubleFixed (places : Nat) (number : Float) : List Char :=
  (BinaryFormat.double.read number.toBits.toNat).fixed places

def singleFixed (places : Nat) (number : Float32) : List Char :=
  (BinaryFormat.single.read number.toBits.toNat).fixed places

example : pointed 3 "7".toList = "0.007".toList := by decide
example : pointed 2 "314".toList = "3.14".toList := by decide

end ReceiverLog.Number
