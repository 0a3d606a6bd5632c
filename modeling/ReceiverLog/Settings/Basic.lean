import ReceiverLog.Files.PathName

namespace ReceiverLog

/-! Where the log is, and how fast its events are delivered. -/

structure MockSettings where
  latency : Option Int64
  deriving DecidableEq

structure Settings where
  directory : String
  file : String
  mock : Option MockSettings
  deriving DecidableEq

namespace Settings

def standard : Settings where
  directory := "/media/internal/location"
  file := "gps.nmea"
  mock := none

def path (settings : Settings) : String :=
  PathName.join settings.directory settings.file

def latency? (settings : Settings) : Option Int64 :=
  settings.mock.bind (·.latency)

def withLatency (settings : Settings) (latency : Int64) : Settings :=
  { settings with mock := some { latency := some latency } }

end Settings

def standardLatency : Nat := 1000

def deliveryInterval (latency : Option Int64) : Nat :=
  match latency with
  | some latency => (if 0 < latency then latency.toInt.toNat else standardLatency) / 2
  | none => standardLatency / 2

end ReceiverLog
