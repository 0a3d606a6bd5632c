import ReceiverLog.Session.Scene

namespace ReceiverLog

/-! The steps of a session and of what is around it. -/

inductive SessionStep where
  | start
  | stop
  | join
  | file (step : FileStep)
  /-- Every live watch tells of a change. -/
  | notice (change : Change)
  /-- Settle what the next registration of a watch comes to. -/
  | reply (reply : WatchReply)
  | hold
  | release

inductive StepAnswer where
  | done
  | failed (cause : Failure)
  | rejected (error : FileError)
  /-- The number of watches that were told. -/
  | told (watches : Nat)
  /-- The call cannot return before something else has happened; it has not
  changed anything yet. -/
  | waits

namespace StepAnswer

def of : Except Failure Unit → StepAnswer
  | .ok _ => .done
  | .error cause => .failed cause

end StepAnswer

def openFailure (path : String) : FileError → Failure
  | .notFound => .fileNotFound path
  | error => .file error.message

namespace Scene

/-- A new run begins by telling so, which nothing can discard. -/
def beginRun : Run :=
  { reader := .fresh, pending := [Task.kept [Event.status .begin]] }

/-- A new run counts anew, and how the run before it ended is no longer asked. -/
def renewed (scene : Scene) : Scene :=
  { scene with session := { scene.session with
      state := .reading, malformed := 0, outcome := none } }

def start (scene : Scene) : StepAnswer × Scene :=
  if scene.session.state.isRunning then (.done, scene)
  else if scene.session.run.isSome then (.waits, scene)
  else
    match scene.log with
    | .error error =>
        (.failed (openFailure scene.session.settings.path error),
          { scene with session := { scene.session with state := .idle, outcome := none } })
    | .ok entry => (.done, (scene.renewed.follow beginRun entry).settle)

/-- Stop a run. A task under way is completed, those behind it are dropped,
and the end is told last. -/
def close (scene : Scene) (run : Run) : Scene :=
  let rest := Task.discard (run.pending.drop 1) (some [Event.status .finish])
  (scene.setRun .stopping { run with pending := run.pending.take 1 ++ rest }
    (.closing (.ok ()))).settle

/-- Stop the run there is. Every step is taken to where nothing moves, so a
stop never falls into the middle of a read pass: the reader looks for one
before each chunk that it reads, but a pass that it gives up so, with the rest
of the log unread, is no step here. -/
def stop (scene : Scene) : StepAnswer × Scene :=
  if !scene.session.state.isRunning then (.done, scene)
  else
    match scene.session.run with
    | some (run, .asleep token) =>
        (.done, { scene with registry := scene.registry.unregister token }.close run)
    | some (_, .refused _) => (.waits, scene)
    | some (_, .closing _) =>
        (.done, { scene with session := { scene.session with state := .stopping } })
    | none => (.done, scene)

def join (scene : Scene) : StepAnswer × Scene :=
  match scene.session.run, scene.session.outcome with
  | some _, _ => (.waits, scene)
  | none, some outcome =>
      (.of outcome, { scene with session := { scene.session with outcome := none } })
  | none, none => (.done, scene)

def takeFileStep (scene : Scene) (step : FileStep) : StepAnswer × Scene :=
  match step.apply scene.files scene.working with
  | .ok files => (.done, { scene with files })
  | .error error => (.rejected error, scene)

def notice (scene : Scene) (change : Change) : StepAnswer × Scene :=
  let told := .told scene.registry.active
  match scene.session.run with
  | some (run, .asleep token) =>
      if change.resumes scene.session.settings.file then (told, (scene.wake run token).settle)
      else (told, scene)
  | _ => (told, scene)

def setHolding (scene : Scene) (holdsBack : Bool) : Scene :=
  ({ scene with consumer := { scene.consumer with holdsBack } }).settle

def take (scene : Scene) : SessionStep → StepAnswer × Scene
  | .start => scene.start
  | .stop => scene.stop
  | .join => scene.join
  | .file step => scene.takeFileStep step
  | .notice change => scene.notice change
  | .reply reply => (.done, { scene with replies := scene.replies ++ [reply] })
  | .hold => (.done, scene.setHolding true)
  | .release => (.done, scene.setHolding false)

/-- The session is given up: it is stopped, and how it ended is not asked. -/
def drop (scene : Scene) : Scene :=
  scene.stop.2.join.2

end Scene

end ReceiverLog
