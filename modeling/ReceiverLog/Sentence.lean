import ReceiverLog.Calendar.Date
import ReceiverLog.Calendar.TimeOfDay
import ReceiverLog.Satellite

namespace ReceiverLog

/-! What a receiver says in one sentence. -/

inductive SentenceKind where
  | fixData | satellitesInView | activeSatellites | minimumData
  deriving DecidableEq

namespace SentenceKind

def code : SentenceKind → String
  | .fixData => "GGA"
  | .satellitesInView => "GSV"
  | .activeSatellites => "GSA"
  | .minimumData => "RMC"

def all : List SentenceKind :=
  [.fixData, .satellitesInView, .activeSatellites, .minimumData]

def ofCode? (code : String) : Option SentenceKind :=
  all.find? (·.code == code)

/-- The fewest fields of a sentence, its address included. -/
def fieldCount : SentenceKind → Nat
  | .fixData => 15
  | .satellitesInView => 4
  | .activeSatellites => 18
  | .minimumData => 12

end SentenceKind

/-- Positioning system fix data. Heights are in metres, angles in degrees
with south and west negative. -/
structure FixData where
  talker : String
  time : Option TimeOfDay
  latitude : Option Float
  longitude : Option Float
  quality : Option UInt8
  satellitesUsed : Option UInt8
  horizontalDilution : Option Float
  altitude : Option Float
  geoidSeparation : Option Float
  correctionAge : Option Float
  correctionStation : Option UInt16

/-- One message of a talker's sequence, with the satellites collected over
the sequence so far. -/
structure SatellitesInView where
  talker : String
  messages : UInt8
  number : UInt8
  inView : Option UInt16
  satellites : List Satellite
  /-- Satellites beyond the roster's capacity were left out. -/
  truncated : Bool

inductive SelectionMode where
  | automatic | manual
  deriving DecidableEq

structure ActiveSatellites where
  talker : String
  selection : Option SelectionMode
  fixMode : Option UInt8
  prns : List UInt16
  positionDilution : Option Float
  horizontalDilution : Option Float
  verticalDilution : Option Float

structure MinimumData where
  talker : String
  time : Option TimeOfDay
  valid : Bool
  latitude : Option Float
  longitude : Option Float
  speedKnots : Option Float
  track : Option Float
  date : Option Date
  magneticVariation : Option Float

inductive Sentence where
  | fixData (data : FixData)
  | satellitesInView (data : SatellitesInView)
  | activeSatellites (data : ActiveSatellites)
  | minimumData (data : MinimumData)
  /-- A sentence with a good check value and an address that is not read. -/
  | unrecognized (address : String)

def Sentence.code : Sentence → String
  | .fixData _ => SentenceKind.fixData.code
  | .satellitesInView _ => SentenceKind.satellitesInView.code
  | .activeSatellites _ => SentenceKind.activeSatellites.code
  | .minimumData _ => SentenceKind.minimumData.code
  | .unrecognized address => address

end ReceiverLog
