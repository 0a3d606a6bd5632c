import ReceiverLog.Event
import ReceiverLog.Number.Fixed

namespace ReceiverLog

/-! Events as they are shown on a terminal. An event is written in bursts,
and each burst is flushed before the next is begun. -/

inductive ReportFormat where
  | text | json
  deriving DecidableEq

structure Report where
  format : ReportFormat
  showRaw : Bool

namespace Report

inductive Colour where
  | green | yellow | blue | magenta

def Colour.code : Colour → Nat
  | .green => 10
  | .yellow => 11
  | .blue => 12
  | .magenta => 13

def escape : Char := '\x1b'

def coloured (colour : Colour) (text : List Char) : List Char :=
  escape :: "[38;5;".toList ++ Nat.toDigits 10 colour.code ++ 'm' :: text
    ++ escape :: "[0m".toList

def right (width : Nat) (text : List Char) : List Char :=
  List.replicate (width - text.length) ' ' ++ text

/-- The time of day of a moment; the bare number where no calendar year is
named for it. -/
def momentText (timestamp : Int) : List Char :=
  match TimeOfDay.ofTimestamp? timestamp with
  | some time => time.clockText
  | none => Json.integerLiteral timestamp

def locationText (location : Location) : List Char :=
  let column := fun width places number => right width (Number.doubleFixed places number)
  let fix := location.fix
  coloured .yellow ('[' :: momentText location.timestamp ++ "] LOCATION ".toList)
    ++ "lat ".toList ++ column 11 6 fix.latitude
    ++ " lon ".toList ++ column 11 6 fix.longitude
    ++ " alt ".toList ++ column 7 1 fix.altitude
    ++ " m  speed ".toList ++ column 6 2 fix.speed
    ++ " m/s  dir ".toList ++ column 6 1 fix.direction
    ++ "  acc ".toList ++ column 5 1 fix.accuracy ++ ['\n']

def satelliteText (satellite : Satellite) : List Char :=
  let whole := fun (number : Option Float32) =>
    (number.map (Number.singleFixed 0)).getD "--".toList
  "  PRN ".toList ++ right 3 (Nat.toDigits 10 satellite.prn.toNat)
    ++ "  SNR ".toList ++ right 3 (whole satellite.signal)
    ++ "  el ".toList ++ right 5 (whole satellite.elevation)
    ++ "  az ".toList ++ right 5 (whole satellite.azimuth)
    ++ "  ".toList ++ satellite.strength.description.toList ++ ['\n']

def statusText : SessionStatus → List Char
  | .begin => "SESSION BEGIN\n".toList
  | .finish => "SESSION END\n".toList

def textBursts : Event → List (List Char)
  | .location location => [locationText location]
  | .satellites satellites =>
      coloured .magenta ("SATELLITES ".toList ++ Nat.toDigits 10 satellites.length ++ ['\n'])
        :: satellites.map satelliteText
  | .raw sentence => [coloured .blue ("  ".toList ++ sentence.text.toList ++ ['\n'])]
  | .status status => [coloured .green (statusText status)]

def jsonLine (event : Event) : List Char :=
  event.toJson.compact ++ ['\n']

def isShown (report : Report) : Event → Bool
  | .raw _ => report.showRaw
  | _ => true

def bursts (report : Report) (event : Event) : List (List Char) :=
  if report.isShown event then
    match report.format with
    | .text => textBursts event
    | .json => [jsonLine event]
  else []

inductive Output where
  | working
  | failingWrites
  | failingFlushes
  deriving DecidableEq

/-- The text that reaches an output. After the first failure the rest of an
event is given up. -/
def Output.receive : Output → List (List Char) → List Char
  | .working, bursts => bursts.flatten
  | .failingWrites, _ => []
  | .failingFlushes, bursts => bursts.headD []

def written (report : Report) (output : Output) (event : Event) : List Char :=
  output.receive (report.bursts event)

end Report

end ReceiverLog
