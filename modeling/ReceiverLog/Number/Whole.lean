namespace ReceiverLog.Number

/-! Whole parts of floating-point numbers. -/

/-- The number without its fraction, and with its sign. The bits that stand
for places after the point are cleared; from `2 ^ 52` on there are none. -/
def wholePart (number : Float) : Float :=
  let bits := number.toBits
  let field := (bits >>> 52) &&& 0x7FF
  if field < 1023 then Float.ofBits (bits &&& 0x8000000000000000)
  else if 1075 ≤ field then number
  else Float.ofBits (bits &&& ~~~((1 <<< (1075 - field)) - 1))

/-- The nearest natural number, a half going up. Negative numbers and those
that are no number give zero, and what is too large gives the largest. -/
def nearestNatural (number : Float) : Nat :=
  let whole := wholePart number
  (if 0.5 ≤ number - whole then whole + 1 else whole).toUInt32.toNat

example : (wholePart (-2.75)).toBits = (-2.0 : Float).toBits := by decide
example : nearestNatural 499.5 = 500 ∧ nearestNatural (-0.5) = 0 := by decide

end ReceiverLog.Number
