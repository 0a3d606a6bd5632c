import ReceiverLog.Program
import Std.Async.Signal
import Std.Time

/-! The program on a real file system. Files are looked at again and again,
and what is there is handed to the program; nothing is decided here. -/

namespace ReceiverLog.Main

def lookInterval : Nat := 100

def now : IO Int := do
  return (← Std.Time.Timestamp.now).toMillisecondsSinceUnixEpoch.val

def orFail {α : Type} (result : Except FileError α) : IO α :=
  match result with
  | .ok value => return value
  | .error error => throw (IO.userError error.message)

def look (tree : FileTree) (working : NodeId) (path : String) : IO FileTree := do
  let real := (← IO.currentDir) / path
  if ← real.isDir then
    orFail ((FileStep.makeDirectory path).apply tree working)
  else if ← real.pathExists then
    let contents ← IO.FS.readBinFile real
    orFail ((FileStep.write path contents.data.toList).apply tree working)
  else return tree

def forget (tree : FileTree) (working : NodeId) (path : String) : FileTree :=
  match (FileStep.remove path).apply tree working with
  | .ok rest => rest
  | .error _ => tree

def writtenAt (path : String) : IO (Option (IO.FS.SystemTime × UInt64)) := do
  try
    let metadata ← ((← IO.currentDir) / path).metadata
    return some (metadata.modified, metadata.byteSize)
  catch _ => return none

def lookAtLog (tree : FileTree) (working : NodeId) (settings : Settings) : IO FileTree := do
  look (← look tree working settings.directory) working settings.path

def endsDelivery : Event → Bool
  | .raw _ => true
  | .status _ => true
  | _ => false

/-- Print events at the pace of delivery, unless there is an interrupt. -/
def print (report : Report) (interval : Nat) (interrupted : BaseIO Bool)
    (events : List Event) : IO Unit := do
  let output ← IO.getStdout
  for event in events do
    if ← interrupted then return
    for burst in report.bursts event do
      output.putStr (String.ofList burst)
      output.flush
    if endsDelivery event then IO.sleep interval.toUInt32

partial def followLog (program : Program) (interval : Nat) (interrupted : BaseIO Bool)
    (written : Option (IO.FS.SystemTime × UInt64)) : IO Program := do
  if ← interrupted then return program
  IO.sleep lookInterval.toUInt32
  let { files, working, session, consumer, .. } := program.scene
  let writtenNow ← writtenAt session.settings.path
  if writtenNow == written then followLog program interval interrupted written
  else
    let files ← lookAtLog (forget files working session.settings.path) working session.settings
    let program := program.arrive files (← now) fun site =>
      Watch.atPath files working session.settings.path (Watch.seen site · [.modified])
    print program.report interval interrupted
      (program.scene.consumer.heard.drop consumer.heard.length)
    followLog program interval interrupted writtenNow

def fail (cause : Failure) : IO UInt32 := do
  IO.eprintln cause.message
  return UInt32.ofNat ExitCode.failure.number

def follow (options : Options) : IO UInt32 := do
  let interrupt ← (← Std.Async.Signal.Waiter.mk .sigint false).wait
  let interrupted := IO.hasFinished interrupt
  let home := (← IO.currentDir).toString
  let bare ← orFail (FileTree.empty.makePath FileTree.root home)
  let working ← orFail (bare.locate FileTree.root home)
  let files ← look bare working options.configPath
  match Program.settings options files working with
  | .error cause => fail cause
  | .ok settings =>
      let written ← writtenAt settings.path
      let files ← lookAtLog files working settings
      match (Program.ready settings options.report files working (← now)).start with
      | (.error cause, _) => fail cause
      | (.ok _, program) =>
          let interval := deliveryInterval settings.latency?
          print program.report interval interrupted program.scene.consumer.heard
          let program ← followLog program interval interrupted written
          let (result, ended) := program.finish
          print ended.report interval (pure false)
            (ended.scene.consumer.heard.drop program.scene.consumer.heard.length)
          match result with
          | .ok _ => return UInt32.ofNat ExitCode.success.number
          | .error cause => fail cause

end ReceiverLog.Main

open ReceiverLog in
def main (arguments : List String) : IO UInt32 := do
  match Command.read arguments with
  | .error misuse =>
      IO.eprintln misuse.message
      return UInt32.ofNat ExitCode.misuse.number
  | .ok .help =>
      IO.print helpText
      return UInt32.ofNat ExitCode.success.number
  | .ok .version =>
      IO.print versionText
      return UInt32.ofNat ExitCode.success.number
  | .ok (.follow options) => ReceiverLog.Main.follow options
