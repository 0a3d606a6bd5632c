import ReceiverLog.Number.Rounding

namespace ReceiverLog.Number

/-! Binary floating-point numbers by their bits, at any width: a sign, an
exponent field and a fraction field. Reading a number rounds once, from its
exact value to the width asked for. -/

structure BinaryFormat where
  fractionBits : Nat
  exponentBits : Nat

/-- What the bits below the sign stand for. A finite magnitude is its
significand times two to its exponent. -/
inductive Magnitude where
  | finite (significand : Nat) (exponent : Int)
  | infinite
  | notANumber
  deriving DecidableEq

structure SignedMagnitude where
  negative : Bool
  magnitude : Magnitude
  deriving DecidableEq

namespace BinaryFormat

def single : BinaryFormat := { fractionBits := 23, exponentBits := 8 }

def double : BinaryFormat := { fractionBits := 52, exponentBits := 11 }

/-- The exponent of the last place of the smallest numbers. -/
def leastExponent (format : BinaryFormat) : Int :=
  2 - (power 2 (format.exponentBits - 1) : Int) - format.fractionBits

def infinityBits (format : BinaryFormat) : Nat :=
  (power 2 format.exponentBits - 1) * power 2 format.fractionBits

def signBit (format : BinaryFormat) : Nat :=
  power 2 (format.exponentBits + format.fractionBits)

def notANumberBits (format : BinaryFormat) : Nat :=
  format.infinityBits + power 2 (format.fractionBits - 1)

def read (format : BinaryFormat) (bits : Nat) : SignedMagnitude :=
  let unsigned := bits % format.signBit
  let field := unsigned / power 2 format.fractionBits
  let fraction := unsigned % power 2 format.fractionBits
  let magnitude :=
    if unsigned = format.infinityBits then .infinite
    else if format.infinityBits < unsigned then .notANumber
    else if field = 0 then .finite fraction format.leastExponent
    else .finite (power 2 format.fractionBits + fraction) (format.leastExponent + field - 1)
  { negative := decide (format.signBit ≤ bits), magnitude }

/-- The bits of the positive number nearest to a quotient. A significand that
rounds up to the next power of two carries into the exponent field by itself,
and anything at or above the infinity is the infinity. -/
def nearestBits (format : BinaryFormat) (quotient : Quotient) : Nat :=
  if quotient.numerator = 0 then 0
  else
    let exponent := max format.leastExponent
      (quotient.binaryOrder - format.fractionBits)
    let significand := (quotient.scale 2 (-exponent)).nearest
    let field := (exponent - format.leastExponent).toNat
    min format.infinityBits (field * power 2 format.fractionBits + significand)

end BinaryFormat

end ReceiverLog.Number
