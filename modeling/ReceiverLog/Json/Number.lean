import ReceiverLog.Number.Shortest

namespace ReceiverLog.Json

/-! Number literals. A floating-point number is written with the fewest
digits that read back, and always with a fraction or a power of ten. -/

def isDigit (character : Char) : Bool :=
  '0' ≤ character && character ≤ '9'

def isNumeric (character : Char) : Bool :=
  isDigit character || character ∈ ['-', '+', '.', 'e', 'E']

def isDigits (text : List Char) : Bool :=
  !text.isEmpty && text.all isDigit

def isWhole (digits : List Char) : Bool :=
  isDigits digits && (digits.head? != some '0' || digits.length == 1)

def isExponent : List Char → Bool
  | [] => true
  | letter :: '+' :: digits => (letter == 'e' || letter == 'E') && isDigits digits
  | letter :: '-' :: digits => (letter == 'e' || letter == 'E') && isDigits digits
  | letter :: digits => (letter == 'e' || letter == 'E') && isDigits digits

def isFraction : List Char → Bool
  | '.' :: rest => isDigits (rest.takeWhile isDigit) && isExponent (rest.dropWhile isDigit)
  | rest => isExponent rest

def isUnsigned (text : List Char) : Bool :=
  isWhole (text.takeWhile isDigit) && isFraction (text.dropWhile isDigit)

def isLiteral : List Char → Bool
  | '-' :: rest => isUnsigned rest
  | text => isUnsigned text

/-- The integer of a literal without fraction and power of ten. Minus zero is
no integer. -/
def integer? (literal : List Char) : Option Int :=
  match literal with
  | '-' :: digits =>
      if isWhole digits && digits != ['0'] then some (-(value digits : Int)) else none
  | digits => if isWhole digits then some (value digits) else none
where
  value (digits : List Char) : Nat :=
    digits.foldl (fun total digit => total * 10 + (digit.toNat - '0'.toNat)) 0

def integerLiteral (value : Int) : List Char :=
  if value < 0 then '-' :: Nat.toDigits 10 value.natAbs else Nat.toDigits 10 value.natAbs

/-- Where the point of a number may stand for it to be written without a power
of ten. The place of the point is counted from before the first digit. -/
structure NumberLayout where
  leastPoint : Int
  greatestPoint : Int

namespace NumberLayout

def double : NumberLayout := { leastPoint := -4, greatestPoint := 16 }

def single : NumberLayout := { leastPoint := -5, greatestPoint := 13 }

def positional (digits : List Char) (point : Int) : List Char :=
  if point ≤ 0 then
    '0' :: '.' :: List.replicate (-point).toNat '0' ++ digits
  else
    let whole := point.toNat
    if digits.length ≤ whole then
      digits ++ List.replicate (whole - digits.length) '0' ++ ['.', '0']
    else digits.take whole ++ '.' :: digits.drop whole

def scientific (digits : List Char) (point : Int) : List Char :=
  let power := point - 1
  let sign := if power < 0 then '-' else '+'
  let mantissa := match digits with
    | first :: second :: rest => first :: '.' :: second :: rest
    | _ => digits
  mantissa ++ 'e' :: sign :: Nat.toDigits 10 power.natAbs

def write (layout : NumberLayout) (number : Number.Digits) : List Char :=
  let digits := Nat.toDigits 10 number.coefficient
  let point := number.exponent + digits.length
  if layout.leastPoint ≤ point ∧ point ≤ layout.greatestPoint then positional digits point
  else scientific digits point

end NumberLayout

/-- The literal of a floating-point number; an infinity and what is no number
have none. -/
def floatLiteral? (format : Number.BinaryFormat) (layout : NumberLayout)
    (number : Number.SignedMagnitude) : Option (List Char) :=
  let unsigned? := match number.magnitude with
    | .finite significand exponent =>
        if significand = 0 then some "0.0".toList
        else some (layout.write (Number.RoundingInterval.of format significand exponent).shortest)
    | _ => none
  unsigned?.map fun text => if number.negative then '-' :: text else text

def doubleLiteral? (number : Float) : Option (List Char) :=
  floatLiteral? .double .double (Number.BinaryFormat.double.read number.toBits.toNat)

def singleLiteral? (number : Float32) : Option (List Char) :=
  floatLiteral? .single .single (Number.BinaryFormat.single.read number.toBits.toNat)

end ReceiverLog.Json
