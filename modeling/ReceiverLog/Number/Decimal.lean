import ReceiverLog.Number.Binary
import ReceiverLog.Number.Numeral

namespace ReceiverLog.Number

/-! Decimal numbers as text: an optional sign, digits with at most one point
among or around them, and an optional power of ten; or a word for an infinity
or for no number at all. -/

inductive Decimal where
  | finite (negative : Bool) (coefficient : Nat) (exponent : Int)
  | infinite (negative : Bool)
  | notANumber
  deriving DecidableEq

namespace Decimal

def isDigit (character : Char) : Bool :=
  '0' ≤ character && character ≤ '9'

def value (digits : List Char) : Nat :=
  digits.foldl (fun total digit => total * 10 + (digit.toNat - '0'.toNat)) 0

/-- A text without its sign, and whether that sign was a minus. -/
def sign : List Char → Bool × List Char
  | '-' :: rest => (true, rest)
  | '+' :: rest => (false, rest)
  | text => (false, text)

/-- The power of ten at the end of a number; nothing written is no power. -/
def exponent? : List Char → Option Int
  | [] => some 0
  | letter :: rest =>
      if letter = 'e' ∨ letter = 'E' then
        let (negative, digits) := sign rest
        if digits.isEmpty || !digits.all isDigit then none
        else some (if negative then -(value digits : Int) else value digits)
      else none

def word? (negative : Bool) (text : List Char) : Option Decimal :=
  let lower := text.map Char.toLower
  if lower = "inf".toList ∨ lower = "infinity".toList then some (.infinite negative)
  else if lower = "nan".toList then some .notANumber
  else none

def digits? (negative : Bool) (text : List Char) : Option Decimal :=
  let whole := text.takeWhile isDigit
  let afterWhole := text.dropWhile isDigit
  let (fraction, rest) := match afterWhole with
    | '.' :: afterPoint => (afterPoint.takeWhile isDigit, afterPoint.dropWhile isDigit)
    | _ => ([], afterWhole)
  if whole.isEmpty && fraction.isEmpty then none
  else
    match exponent? rest with
    | none => none
    | some power =>
        some (.finite negative (value (whole ++ fraction)) (power - fraction.length))

def read? (text : List Char) : Option Decimal :=
  let (negative, rest) := sign text
  match digits? negative rest with
  | some decimal => some decimal
  | none => word? negative rest

/-- Beyond this power of ten either way, every width has reached its end. -/
def reach : Int := 400

/-- The bits of a number at a width, rounded once from its exact value. -/
def bits (format : BinaryFormat) : Decimal → Nat
  | .notANumber => format.notANumberBits
  | .infinite negative => signed negative format.infinityBits
  | .finite negative coefficient exponent =>
      let order := exponent + (Nat.toDigits 10 coefficient).length
      signed negative <|
        if coefficient = 0 ∨ order < -reach then 0
        else if reach < order then format.infinityBits
        else format.nearestBits (Quotient.scale ⟨coefficient, 1⟩ 10 exponent)
where
  signed (negative : Bool) (magnitude : Nat) : Nat :=
    if negative then format.signBit + magnitude else magnitude

def toDouble (decimal : Decimal) : Float :=
  Float.ofBits (UInt64.ofNat (decimal.bits .double))

def toSingle (decimal : Decimal) : Float32 :=
  Float32.ofBits (UInt32.ofNat (decimal.bits .single))

end Decimal

def double? (text : List Char) : Option Float :=
  (Decimal.read? text).map Decimal.toDouble

def single? (text : List Char) : Option Float32 :=
  (Decimal.read? text).map Decimal.toSingle

end ReceiverLog.Number
