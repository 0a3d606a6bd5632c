namespace ReceiverLog.Number

/-! Unsigned numerals of a bounded width. One plus sign may stand before the
digits; leading zeros are allowed; a value that does not fit is refused. -/

def digit? (base : Nat) (character : Char) : Option Nat :=
  let code := character.toNat
  let value :=
    if '0' ≤ character ∧ character ≤ '9' then some (code - '0'.toNat)
    else if 'a' ≤ character ∧ character ≤ 'f' then some (code - 'a'.toNat + 10)
    else if 'A' ≤ character ∧ character ≤ 'F' then some (code - 'A'.toNat + 10)
    else none
  value.filter (· < base)

/-- The value of a run of digits, continuing from the digits before it. -/
def digitsFrom (base : Nat) : Nat → List Char → Option Nat
  | value, [] => some value
  | value, character :: rest =>
      match digit? base character with
      | some next => digitsFrom base (value * base + next) rest
      | none => none

def numeral? (base bound : Nat) (text : List Char) : Option Nat :=
  let digits := match text with
    | '+' :: rest => rest
    | _ => text
  if digits.isEmpty then none
  else (digitsFrom base 0 digits).filter (· < bound)

def byte? (text : List Char) : Option UInt8 :=
  (numeral? 10 UInt8.size text).map UInt8.ofNat

def word? (text : List Char) : Option UInt16 :=
  (numeral? 10 UInt16.size text).map UInt16.ofNat

def checkByte? (text : List Char) : Option UInt8 :=
  (numeral? 16 UInt8.size text).map UInt8.ofNat

example : byte? "255".toList = some 255 ∧ byte? "256".toList = none := by decide
example : checkByte? "6a".toList = some 0x6A ∧ checkByte? "6G".toList = none := by decide

end ReceiverLog.Number
