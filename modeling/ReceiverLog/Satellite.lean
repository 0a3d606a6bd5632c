namespace ReceiverLog

structure Satellite where
  prn : UInt16
  signal : Option Float32
  elevation : Option Float32
  azimuth : Option Float32
  deriving DecidableEq

/-- Signal strength in words, from the signal-to-noise ratio in dB-Hz. -/
inductive SignalStrength where
  | excellent | good | fair | poor | veryPoor | unknown
  deriving DecidableEq

namespace SignalStrength

def of : Option Float32 → SignalStrength
  | none => .unknown
  | some ratio =>
      if 40.0 ≤ ratio then .excellent
      else if 35.0 ≤ ratio then .good
      else if 25.0 ≤ ratio then .fair
      else if 15.0 ≤ ratio then .poor
      else .veryPoor

def description : SignalStrength → String
  | .excellent => "Excellent"
  | .good => "Good"
  | .fair => "Fair"
  | .poor => "Poor"
  | .veryPoor => "Very Poor"
  | .unknown => "Unknown"

end SignalStrength

def Satellite.strength (satellite : Satellite) : SignalStrength :=
  .of satellite.signal

end ReceiverLog
