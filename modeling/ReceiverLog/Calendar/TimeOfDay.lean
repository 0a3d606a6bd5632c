import ReceiverLog.Number.Decimal
import ReceiverLog.Number.Numeral
import ReceiverLog.Number.Whole

namespace ReceiverLog

/-! Times of day, as receivers write them and as reports show them. -/

structure TimeOfDay where
  hour : Fin 24
  minute : Fin 60
  second : Fin 60
  millisecond : Fin 1000
  deriving DecidableEq

namespace TimeOfDay

def of? (hour minute second millisecond : Nat) : Option TimeOfDay :=
  if inside : hour < 24 ∧ minute < 60 ∧ second < 60 ∧ millisecond < 1000 then
    some {
      hour := ⟨hour, inside.1⟩
      minute := ⟨minute, inside.2.1⟩
      second := ⟨second, inside.2.2.1⟩
      millisecond := ⟨millisecond, inside.2.2.2⟩ }
  else none

/-- Numerals of hours and minutes are read as 32-bit numbers. -/
def part? (text : List Char) : Option Nat :=
  Number.numeral? 10 UInt32.size text

/-- Milliseconds after a whole second, at most the last one of it. -/
def milliseconds (seconds : Float) : Nat :=
  min 999 (Number.nearestNatural ((seconds - Number.wholePart seconds) * 1000.0))

def read? (text : List Char) : Option TimeOfDay :=
  if text.length < 6 then none
  else do
    let hour ← part? (text.take 2)
    let minute ← part? ((text.drop 2).take 2)
    let seconds ← Number.double? (text.drop 4)
    of? hour minute seconds.toUInt32.toNat (milliseconds seconds)

def dayLength : Int := 86400000

/-- The moments, in milliseconds from the epoch, whose year has a name in
the calendar: the years from 262143 before the era to 262142 of it. -/
def named (timestamp : Int) : Bool :=
  -8334601228800000 ≤ timestamp && timestamp ≤ 8210266876799999

def ofTimestamp? (timestamp : Int) : Option TimeOfDay :=
  if named timestamp then
    let inDay := (timestamp % dayLength).toNat
    of? (inDay / 3600000) (inDay / 60000 % 60) (inDay / 1000 % 60) (inDay % 1000)
  else none

def padded (width value : Nat) : List Char :=
  let digits := Nat.toDigits 10 value
  List.replicate (width - digits.length) '0' ++ digits

def clockText (time : TimeOfDay) : List Char :=
  padded 2 time.hour ++ ':' :: padded 2 time.minute ++ ':' :: padded 2 time.second
    ++ '.' :: padded 3 time.millisecond

end TimeOfDay

end ReceiverLog
