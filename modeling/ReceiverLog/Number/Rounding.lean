namespace ReceiverLog.Number

/-! Rounding an exact quotient to a whole number. -/

/-- The whole number nearest to a quotient; of two equally near, the even one. -/
def nearestQuotient (numerator denominator : Nat) : Nat :=
  let whole := numerator / denominator
  let rest := numerator % denominator
  if 2 * rest < denominator then whole
  else if denominator < 2 * rest then whole + 1
  else if whole % 2 = 0 then whole else whole + 1

example : nearestQuotient 5 2 = 2 ∧ nearestQuotient 7 2 = 4 := by decide
example : nearestQuotient 8 3 = 3 := by decide

structure Quotient where
  numerator : Nat
  denominator : Nat

/-- `Nat.pow` itself, whichever instance of powers is in scope. -/
def power (base exponent : Nat) : Nat :=
  Nat.pow base exponent

namespace Quotient

def scale (quotient : Quotient) (base : Nat) : Int → Quotient
  | .ofNat count => { quotient with numerator := quotient.numerator * power base count }
  | .negSucc count =>
      { quotient with denominator := quotient.denominator * power base (count + 1) }

def nearest (quotient : Quotient) : Nat :=
  nearestQuotient quotient.numerator quotient.denominator

def floor (quotient : Quotient) : Nat :=
  quotient.numerator / quotient.denominator

/-- The exponent of the greatest power of two that is no greater. -/
def binaryOrder (quotient : Quotient) : Int :=
  let guess := (quotient.numerator.log2 : Int) - (quotient.denominator.log2 : Int)
  let scaled := quotient.scale 2 (-guess)
  if scaled.numerator < scaled.denominator then guess - 1 else guess

end Quotient

end ReceiverLog.Number
