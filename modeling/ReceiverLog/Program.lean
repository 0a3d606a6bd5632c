import ReceiverLog.CommandLine
import ReceiverLog.Session.Step
import ReceiverLog.Settings.Store
import ReceiverLog.Watch.Directory

namespace ReceiverLog

/-! The program as a whole: a session set up by options, whose events are
reported as they come. -/

inductive ExitCode where
  | success | failure | misuse
  deriving DecidableEq

def ExitCode.number : ExitCode → Nat
  | .success => 0
  | .failure => 1
  | .misuse => 2

/-- The live watch is remembered with the directory that it has found. -/
structure Program where
  scene : Scene
  report : Report
  watch : Option (WatchToken × WatchSite)

namespace Program

def settings (options : Options) (files : FileTree) (working : NodeId) :
    Except Failure Settings :=
  (Settings.load files working options.configPath).map options.override

def ready (settings : Settings) (report : Report) (files : FileTree) (working : NodeId)
    (now : Int) : Program where
  report
  watch := none
  scene := {
    session := .idle settings
    files
    working
    registry := .empty
    replies := []
    consumer := { holdsBack := false, rawOnly := false, heard := [] }
    now }

/-- The next registration of a watch succeeds if the directory is there. -/
def expectWatch (scene : Scene) : Scene :=
  let refusal := Watch.refusal scene.files scene.working scene.session.settings.directory
  { scene with replies := refusal.toList.map WatchReply.refuseAtOnce }

def findWatch (known : Option (WatchToken × WatchSite)) (scene : Scene) :
    Option (WatchToken × WatchSite) :=
  match scene.session.run with
  | some (_, .asleep token) =>
      if known.any (·.1 == token) then known
      else
        let site := Watch.site scene.files scene.working scene.session.settings.directory
        site.toOption.map (token, ·)
  | _ => none

def take (program : Program) (step : SessionStep) : Except Failure Unit × Program :=
  let (answer, scene) := (expectWatch program.scene).take step
  let result := match answer with
    | .failed cause => .error cause
    | _ => .ok ()
  (result, { program with scene, watch := findWatch program.watch scene })

def start (program : Program) : Except Failure Unit × Program :=
  program.take .start

def notice (program : Program) (change : Change) : Program :=
  (program.take (.notice change)).2

/-- The files have come to be others by a later moment, with changes of which
the live watch tells. -/
def arrive (program : Program) (files : FileTree) (now : Int)
    (changes : WatchSite → List Change) : Program :=
  let arrived := { program with scene := { program.scene with files, now } }
  match program.watch with
  | none => arrived
  | some (_, site) => (changes site).foldl notice arrived

def fileStep (program : Program) (step : FileStep) : Program :=
  let { files, working, now, .. } := program.scene
  match step.apply files working with
  | .error _ => program
  | .ok after => program.arrive after now fun site => Watch.changes site files after working step

def finish (program : Program) : Except Failure Unit × Program :=
  (program.take .stop).2.take .join

def output (program : Program) : List Char :=
  program.scene.consumer.heard.flatMap (program.report.written .working)

structure Ending where
  output : List Char
  code : ExitCode

def codeOf : Except Failure Unit → ExitCode
  | .ok _ => .success
  | .error _ => .failure

def follow (options : Options) (files : FileTree) (working : NodeId) (now : Int)
    (steps : List FileStep) : Ending :=
  match settings options files working with
  | .error _ => { output := [], code := .failure }
  | .ok settings =>
      match (ready settings options.report files working now).start with
      | (.error _, program) => { output := program.output, code := .failure }
      | (.ok _, program) =>
          let (result, ended) := (steps.foldl fileStep program).finish
          { output := ended.output, code := codeOf result }

def run (arguments : List String) (files : FileTree) (working : NodeId) (now : Int)
    (steps : List FileStep) : Ending :=
  match Command.read arguments with
  | .error _ => { output := [], code := .misuse }
  | .ok .help => { output := helpText.toList, code := .success }
  | .ok .version => { output := versionText.toList, code := .success }
  | .ok (.follow options) => follow options files working now steps

end Program

end ReceiverLog
