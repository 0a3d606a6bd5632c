import ReceiverLog.Json.Reading
import ReceiverLog.Settings.Basic

namespace ReceiverLog

/-! Settings as JSON. A record is an object, whose unknown members are passed
over, or an array of its first few members in order. -/

namespace Json.Value

def member? (key : String) (members : List (Option String × Value)) : Option (Option Value) :=
  match members.filter fun (name, _) => name == some key with
  | [] => some none
  | [(_, value)] => some (some value)
  | _ => none

def record? (keys : List String) : Value → Option (List (Option Value))
  | .array values =>
      let given := values.toList
      if given.length ≤ keys.length then
        some (given.map some ++ List.replicate (keys.length - given.length) none)
      else none
  | .object members =>
      let given := members.toList
      if given.all (·.1.isSome) then keys.mapM (member? · given) else none
  | _ => none

def textOr? (standard : String) : Option Value → Option String
  | none => some standard
  | some (.string (some text)) => some text
  | some _ => none

end Json.Value

namespace MockSettings

def latencyKey : String := "LATENCY"

/-- A latency is an integer literal of 64 bits, or null. -/
def readLatency? : Option Json.Value → Option (Option Int64)
  | none => some none
  | some .null => some none
  | some (.number literal) =>
      match Json.integer? literal.toList with
      | some value =>
          if Int64.minValue.toInt ≤ value ∧ value ≤ Int64.maxValue.toInt then
            some (some (Int64.ofInt value))
          else none
      | none => none
  | some _ => none

def read? (value : Json.Value) : Option MockSettings := do
  match ← value.record? [latencyKey] with
  | [latency] => return { latency := ← readLatency? latency }
  | _ => none

def toJson (settings : MockSettings) : Json.Value :=
  .record (settings.latency.toList.map fun latency => (latencyKey, .integer latency.toInt))

end MockSettings

namespace Settings

def directoryKey : String := "nmea_dir"

def fileKey : String := "nmea_file"

def mockKey : String := "GPS_MOCK_INFO"

def readMock? : Option Json.Value → Option (Option MockSettings)
  | none => some none
  | some .null => some none
  | some value => (MockSettings.read? value).map some

def read? (value : Json.Value) : Option Settings := do
  match ← value.record? [directoryKey, fileKey, mockKey] with
  | [directory, file, mock] => return {
      directory := ← Json.Value.textOr? standard.directory directory
      file := ← Json.Value.textOr? standard.file file
      mock := ← readMock? mock }
  | _ => none

/-- Mock settings that are absent are left out; empty ones are not. -/
def toJson (settings : Settings) : Json.Value :=
  .record (
    [(directoryKey, .text settings.directory), (fileKey, .text settings.file)]
      ++ settings.mock.toList.map fun mock => (mockKey, mock.toJson))

def ofText? (text : String) : Option Settings :=
  (Json.Value.read? text.toList).bind read?

def toText (settings : Settings) : String :=
  String.ofList (settings.toJson.indented 0)

end Settings

end ReceiverLog
