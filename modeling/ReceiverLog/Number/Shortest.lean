import ReceiverLog.Number.Binary

namespace ReceiverLog.Number

/-! The fewest decimal digits that read back as the same binary number, and
of those the nearest. On the grid of each power of ten, from coarse to fine,
only the two neighbours of the number can be the nearest point that lies in
the interval of numbers rounding to it. -/

/-- A decimal number as its digits, read as a natural number, times a power
of ten. -/
structure Digits where
  coefficient : Nat
  exponent : Int
  deriving DecidableEq

namespace Digits

/-- The same number with no zero at the end of its digits. The first argument
bounds how many zeros are looked for. -/
def trimmed : Nat → Digits → Digits
  | 0, digits => digits
  | bound + 1, digits =>
      if digits.coefficient % 10 = 0 then
        trimmed bound { coefficient := digits.coefficient / 10, exponent := digits.exponent + 1 }
      else digits

end Digits

/-- The numbers that round to one binary number, in units of `2 ^ exponent`.
The ends belong to the interval when the number's significand is even. -/
structure RoundingInterval where
  low : Nat
  value : Nat
  high : Nat
  exponent : Int
  closed : Bool

namespace RoundingInterval

/-- Below a power of two the neighbours are half as far apart as above it. -/
def of (format : BinaryFormat) (significand : Nat) (exponent : Int) : RoundingInterval where
  low :=
    if significand = power 2 format.fractionBits ∧ format.leastExponent < exponent then
      4 * significand - 1
    else 4 * significand - 2
  value := 4 * significand
  high := 4 * significand + 2
  exponent := exponent - 2
  closed := significand % 2 == 0

/-- A multiple of `step` lies in the interval. Both are counted in the same
unit, of which the interval's own unit is `scale`. -/
def holds (interval : RoundingInterval) (scale point : Nat) : Bool :=
  if interval.closed then
    interval.low * scale ≤ point && point ≤ interval.high * scale
  else interval.low * scale < point && point < interval.high * scale

/-- The nearer of the two neighbours on the grid of a power of ten, if one of
them lies in the interval. Of two equally near it is the even one. -/
def onGrid? (interval : RoundingInterval) (power : Int) : Option Digits :=
  let ratio := (Quotient.scale ⟨1, 1⟩ 2 interval.exponent).scale 10 (-power)
  let value := interval.value * ratio.numerator
  let below := value / ratio.denominator
  let above := below + 1
  let lower := interval.holds ratio.numerator (below * ratio.denominator)
  let upper := interval.holds ratio.numerator (above * ratio.denominator)
  let point :=
    if lower && upper then some (nearestQuotient value ratio.denominator)
    else if lower then some below
    else if upper then some above
    else none
  point.map fun coefficient => { coefficient, exponent := power }

/-- A power of ten above the number: three in ten of its binary places. -/
def decimalOrder (interval : RoundingInterval) : Int :=
  (interval.exponent + interval.value.log2 + 1) * 30103 / 100000 + 1

/-- Seventeen digits tell any two numbers of the wider format apart. -/
def mostDigits : Nat := 17

def shortest (interval : RoundingInterval) : Digits :=
  let order := interval.decimalOrder
  let found := (List.range (mostDigits + 1)).findSome? fun (count : Nat) =>
    interval.onGrid? (order - 1 - (count : Int))
  match found with
  | some digits => digits.trimmed mostDigits
  | none => { coefficient := interval.value, exponent := 0 }

end RoundingInterval

end ReceiverLog.Number
