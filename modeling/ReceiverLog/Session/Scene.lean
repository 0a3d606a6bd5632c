import ReceiverLog.Files.FileStep
import ReceiverLog.Session.Consumer
import ReceiverLog.Settings.Basic
import ReceiverLog.Watch.Change
import ReceiverLog.Watch.Registry

namespace ReceiverLog

/-! A session that follows one log, among the files, the watches and the
consumer it has to do with. Each step is taken to the point where nothing
moves any more. -/

inductive SessionState where
  | idle | opening | reading | awaitingChange | stopping | stopped
  deriving DecidableEq

def SessionState.isRunning : SessionState → Bool
  | .opening => true
  | .reading => true
  | .awaitingChange => true
  | _ => false

/-- Where a run stands when nothing moves. -/
inductive RunPhase where
  /-- It sleeps until its watch tells of a change. -/
  | asleep (token : WatchToken)
  /-- Its watch was refused, which it learns once everything is delivered. -/
  | refused (cause : Failure)
  /-- It only waits for the last deliveries. -/
  | closing (outcome : Except Failure Unit)

/-- A run of a session: from a start that opened the log to its end. -/
structure Run where
  reader : Reader
  /-- Tasks not yet run. The first is the one the consumer holds back. -/
  pending : List (Task Delivery)

structure Session where
  settings : Settings
  state : SessionState
  malformed : Nat
  run : Option (Run × RunPhase)
  /-- How the latest run ended, until someone asks. -/
  outcome : Option (Except Failure Unit)

namespace Session

def idle (settings : Settings) : Session :=
  { settings, state := .idle, malformed := 0, run := none, outcome := none }

/-- How much of the log the current run has read. A session keeps no offset
beside its run, and neither a stop that was asked for, nor a watch that is
pending, nor what wakes the reader: where nothing moves, the offset is that of
the reader, the other three are told by the phase of the run, and without a
run they are zero and none. -/
def offset (session : Session) : Nat :=
  match session.run with
  | some (run, _) => run.reader.offset
  | none => 0

end Session

inductive WatchReply where
  /-- It succeeds. If bytes land, they are appended to the log just before,
  and a log that is gone is made again, even by no bytes at all. -/
  | accept (landed : Option (List UInt8))
  /-- It fails, once everything read before is delivered. -/
  | refuse (cause : Failure)
  /-- It fails without waiting for any delivery. -/
  | refuseAtOnce (cause : Failure)

structure Scene where
  session : Session
  files : FileTree
  working : NodeId
  registry : WatchRegistry
  /-- Replies to the coming registrations. After them all succeed. -/
  replies : List WatchReply
  consumer : Consumer
  now : Int

namespace Scene

def log (scene : Scene) : Except FileError FileEntry :=
  scene.files.lookup scene.working scene.session.settings.path

def setRun (scene : Scene) (state : SessionState) (run : Run) (phase : RunPhase) : Scene :=
  { scene with session := { scene.session with state, run := some (run, phase) } }

def finish (scene : Scene) (outcome : Except Failure Unit) : Scene :=
  { scene with session := { scene.session with
      state := .stopped, run := none, outcome := some outcome } }

/-- Deliver as much as the consumer takes, and end a run that waited only for
that. -/
def settle (scene : Scene) : Scene :=
  match scene.session.run with
  | none => scene
  | some (run, phase) =>
      let (consumer, pending) := scene.consumer.work run.pending
      let delivered := { scene with consumer }.setRun scene.session.state
        { run with pending } phase
      match phase, pending with
      | .refused cause, [] => delivered.finish (.error cause)
      | .closing outcome, [] => delivered.finish outcome
      | _, _ => delivered

/-! ## Reading and waiting -/

def absorb (scene : Scene) (run : Run) (reading : Reading) : Scene × Run :=
  ({ scene with session := { scene.session with
      malformed := scene.session.malformed + reading.malformed } },
    { reader := reading.reader
      pending := run.pending ++ reading.deliveries.map Task.ordinary })

/-- End a run by a failure. A task under way is completed; of those behind
it, only the ones that always run are. -/
def abort (scene : Scene) (state : SessionState) (run : Run) (cause : Failure) : Scene :=
  let rest := Task.discard (run.pending.drop 1) none
  scene.setRun state { run with pending := run.pending.take 1 ++ rest } (.closing (.error cause))

def landing (scene : Scene) (landed : List UInt8) : FileTree :=
  match (FileStep.append scene.session.settings.path landed).apply scene.files scene.working with
  | .ok files => files
  | .error _ => scene.files

/-- Register a watch and sleep. When the log has grown while the watch was
being registered, the watch is withdrawn again and the log read on. -/
def await (scene : Scene) (run : Run) : List WatchReply → Scene
  | [] =>
      let token := scene.registry.upcoming
      let registry := scene.registry.grant scene.session.settings.directory
      { scene with registry, replies := [] }.setRun .awaitingChange run (.asleep token)
  | .refuse cause :: replies =>
      { scene with registry := scene.registry.refuse, replies }.setRun .awaitingChange run
        (.refused cause)
  | .refuseAtOnce cause :: replies =>
      { scene with registry := scene.registry.refuse, replies }.abort .awaitingChange run cause
  | .accept landed :: replies =>
      let token := scene.registry.upcoming
      let registry := scene.registry.grant scene.session.settings.directory
      let files := landed.elim scene.files scene.landing
      let watching := { scene with files, registry, replies }
      match watching.log with
      | .ok (.file contents) =>
          if run.reader.offset < contents.size then
            let woken := { watching with registry := registry.unregister token }
            let reading := run.reader.readOn scene.now contents
            let (read, run) := woken.absorb run reading
            match reading.fault with
            | some fault => read.abort .reading run (.decoder fault)
            | none => read.await run replies
          else watching.setRun .awaitingChange run (.asleep token)
      | _ => watching.setRun .awaitingChange run (.asleep token)

def follow (scene : Scene) (run : Run) : FileEntry → Scene
  | .directory => scene.abort .reading run (.file FileError.isDirectory.message)
  | .file contents =>
      let reading := run.reader.readOn scene.now contents
      let (scene, run) := scene.absorb run reading
      match reading.fault with
      | some fault => scene.abort .reading run (.decoder fault)
      | none => scene.await run scene.replies

/-- Open the log again after a change. A log that is gone may come back. -/
def wake (scene : Scene) (run : Run) (token : WatchToken) : Scene :=
  let scene := { scene with registry := scene.registry.unregister token }
  match scene.log with
  | .ok entry => scene.follow run entry
  | .error .notFound => scene.await run scene.replies
  | .error error => scene.abort .opening run (.file error.message)

end Scene

end ReceiverLog
