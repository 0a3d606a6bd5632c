import ReceiverLog.Fix
import ReceiverLog.Json.Value

namespace ReceiverLog

/-! What a consumer is told. Times are milliseconds since the epoch. -/

structure Location where
  fix : Fix
  timestamp : Int
  deriving DecidableEq

structure RawSentence where
  timestamp : Int
  text : String
  length : Nat
  deriving DecidableEq

def RawSentence.of (timestamp : Int) (text : String) : RawSentence :=
  { timestamp, text, length := text.utf8ByteSize }

inductive SessionStatus where
  | begin | finish
  deriving DecidableEq

def SessionStatus.name : SessionStatus → String
  | .begin => "Begin"
  | .finish => "End"

inductive Event where
  | location (location : Location)
  | satellites (satellites : List Satellite)
  | raw (sentence : RawSentence)
  | status (status : SessionStatus)
  deriving DecidableEq

/-! ## As JSON -/

def Satellite.toJson (satellite : Satellite) : Json.Value :=
  let single := fun (number : Option Float32) => (number.map Json.Value.single).getD .null
  .record [
    ("prn", .integer satellite.prn.toNat),
    ("snr", single satellite.signal),
    ("elevation", single satellite.elevation),
    ("azimuth", single satellite.azimuth)]

def Event.toJson : Event → Json.Value
  | .location { fix, timestamp } => .record [
      ("event", .text "decoded"), ("type", .text "location"),
      ("latitude", .double fix.latitude), ("longitude", .double fix.longitude),
      ("altitude", .double fix.altitude), ("speed", .double fix.speed),
      ("direction", .double fix.direction), ("accuracy", .double fix.accuracy),
      ("timestamp", .integer timestamp)]
  | .satellites listed => .record [
      ("event", .text "decoded"), ("type", .text "satellite_status"),
      ("count", .integer listed.length),
      ("satellites", .list (listed.map Satellite.toJson))]
  | .raw { timestamp, text, length } => .record [
      ("event", .text "raw"), ("timestamp", .integer timestamp),
      ("text", .text text), ("length", .integer length)]
  | .status reached => .record [
      ("event", .text "session"), ("status", .text reached.name)]

end ReceiverLog
