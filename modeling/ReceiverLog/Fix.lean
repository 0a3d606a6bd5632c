import ReceiverLog.Sentence

namespace ReceiverLog

/-- The latest known position and motion, merged from every sentence that
tells of them. Speed is in metres per second. -/
structure Fix where
  latitude : Float
  longitude : Float
  altitude : Float
  speed : Float
  direction : Float
  accuracy : Float
  deriving DecidableEq

namespace Fix

def knot : Float := 0.514

/-- At the start of a session the position is zero and all else is unknown,
which minus one stands for. -/
def unknown : Fix where
  latitude := 0.0
  longitude := 0.0
  altitude := -1.0
  speed := -1.0
  direction := -1.0
  accuracy := -1.0

/-- At the end of a session everything is zero. -/
def cleared : Fix where
  latitude := 0.0
  longitude := 0.0
  altitude := 0.0
  speed := 0.0
  direction := 0.0
  accuracy := 0.0

/-- Merge one sentence. What it leaves absent keeps its value. -/
def merge (fix : Fix) : Sentence → Fix
  | .fixData data => { fix with
      latitude := data.latitude.getD fix.latitude
      longitude := data.longitude.getD fix.longitude
      altitude := data.altitude.getD fix.altitude
      accuracy := data.horizontalDilution.getD fix.accuracy }
  | .minimumData data => { fix with
      latitude := data.latitude.getD fix.latitude
      longitude := data.longitude.getD fix.longitude
      speed := (data.speedKnots.map (· * knot)).getD fix.speed
      direction := data.track.getD fix.direction }
  | _ => fix

end Fix

def Sentence.tellsPosition : Sentence → Bool
  | .fixData _ => true
  | .minimumData _ => true
  | _ => false

def Fix.apply (fix : Fix) (sentence : Sentence) : Fix × Option Fix :=
  let merged := fix.merge sentence
  (merged, if sentence.tellsPosition then some merged else none)

end ReceiverLog
