import ReceiverLog.Failure
import ReceiverLog.Files.FileTree
import ReceiverLog.Settings.Json
import ReceiverLog.Text.Bytes

namespace ReceiverLog

/-! Settings kept in a file. -/

namespace Settings

def ofContents (contents : List UInt8) : Except SettingsProblem Settings :=
  match Text.ofUtf8? contents with
  | none => .error .unreadable
  | some text =>
      match ofText? text with
      | some settings => .ok settings
      | none => .error .unparsable

/-- The settings at a path. Where there is nothing, the standard ones hold. -/
def load (files : FileTree) (working : NodeId) (path : String) : Except Failure Settings :=
  match files.lookup working path with
  | .error _ => .ok standard
  | .ok .directory => .error (.settings .unreadable)
  | .ok (.file contents) => (ofContents contents.toList).mapError .settings

def save (settings : Settings) (files : FileTree) (working : NodeId) (path : String) :
    Except Failure FileTree :=
  match files.makeParents working path with
  | .error _ => .error (.settings .noDirectory)
  | .ok files =>
      match files.writeFile working path (Text.utf8 settings.toText) with
      | .error _ => .error (.settings .unwritable)
      | .ok files => .ok files

def loadLatency (files : FileTree) (working : NodeId) (path : String) :
    Except Failure (Option Int64) := do
  if !files.isPresent working path then throw (.settings (.unavailable path))
  return (← load files working path).latency?

end Settings

def resolveInterval (latency : Except Failure (Option Int64)) : Nat :=
  deliveryInterval (latency.toOption.join)

end ReceiverLog
