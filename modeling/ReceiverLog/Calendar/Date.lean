import ReceiverLog.Number.Decimal

namespace ReceiverLog

/-! Calendar dates, as receivers write them. -/

namespace Calendar

def isLeap (year : Nat) : Bool :=
  year % 4 == 0 && (year % 100 != 0 || year % 400 == 0)

def daysIn (year month : Nat) : Nat :=
  if month = 2 then (if isLeap year then 29 else 28)
  else if month ∈ [4, 6, 9, 11] then 30
  else if month ∈ [1, 3, 5, 7, 8, 10, 12] then 31
  else 0

end Calendar

structure Date where
  year : Nat
  month : Nat
  day : Nat
  inMonth : 1 ≤ day ∧ day ≤ Calendar.daysIn year month
  deriving DecidableEq

namespace Date

def of? (year month day : Nat) : Option Date :=
  if inMonth : 1 ≤ day ∧ day ≤ Calendar.daysIn year month then
    some { year, month, day, inMonth }
  else none

/-- Two digits of a year name one of the hundred years from 1980 on. -/
def fullYear (twoDigits : Nat) : Nat :=
  if twoDigits < 80 then 2000 + twoDigits else 1900 + twoDigits

/-- Six digits: day, month, and the last two of the year. -/
def read? (text : List Char) : Option Date :=
  if text.length = 6 ∧ text.all Number.Decimal.isDigit then
    of? (fullYear (Number.Decimal.value (text.drop 4)))
      (Number.Decimal.value ((text.drop 2).take 2))
      (Number.Decimal.value (text.take 2))
  else none

end Date

end ReceiverLog
