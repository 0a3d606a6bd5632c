import ReceiverLog.Proofs.Session.Reading
import ReceiverLog.Proofs.Session.Surroundings

namespace ReceiverLog

/-! What a run tells. Its tasks are one for its beginning, which is always told,
and one for each delivery. A run that is ended drops deliveries from the end of
its tasks, never from between them. -/

inductive Ending where
  | stopped | aborted
  deriving DecidableEq

namespace Run

def plan (deliveries : List Delivery) : List (Task Delivery) :=
  Task.kept [.status .begin] :: deliveries.map Task.ordinary

def finishTask : Task Delivery :=
  Task.kept [.status .finish]

theorem flatMap_body_plan (deliveries : List Delivery) :
    (plan deliveries).flatMap (·.body) = .status .begin :: deliveries.flatten := by
  rw [plan, List.flatMap_cons, List.flatMap_map]
  exact congrArg (Event.status .begin :: ·) List.flatMap_id

/-- A run that has completed some tasks, and has read some bytes. What is to be
told of them is still pending where it is not yet done. -/
structure Going (now : Int) (done : List (Task Delivery)) (consumed : List UInt8)
    (run : Run) : Prop where
  reader : run.reader = (Reading.of now consumed).reader
  planned : done ++ run.pending = plan (Reading.of now consumed).deliveries

inductive Tells (now : Int) (done : List (Task Delivery)) (consumed : List UInt8)
    (run : Run) : RunPhase → Option Ending → Prop
  | asleep {token : WatchToken} : run.Going now done consumed → Tells now done consumed run
      (.asleep token) none
  | refused {cause : Failure} : run.Going now done consumed → Tells now done consumed run
      (.refused cause) (some .aborted)
  | failed {cause : Failure} {told : List Delivery} :
      told <+: (Reading.of now consumed).deliveries → done ++ run.pending = plan told →
      Tells now done consumed run (.closing (.error cause)) (some .aborted)
  | stopped {told : List Delivery} :
      told <+: (Reading.of now consumed).deliveries →
      done ++ run.pending = plan told ++ [finishTask] →
      Tells now done consumed run (.closing (.ok ())) (some .stopped)

theorem begin_going (now : Int) : Scene.beginRun.Going now [] [] where
  reader := by
    rw [Reading.of_nil]
    rfl
  planned := by
    rw [Reading.of_nil]
    rfl

private theorem discard_ordinary (deliveries : List Delivery) (last : Option Delivery) :
    Task.discard (deliveries.map Task.ordinary) last = (last.map Task.kept).toList := by
  rw [Task.discard, List.filter_map]
  simp [Task.ordinary, Function.comp_def]

namespace Going

variable {now : Int} {done : List (Task Delivery)} {consumed : List UInt8} {run : Run}

theorem offset (going : run.Going now done consumed) : run.reader.offset = consumed.length := by
  rw [going.reader, Reading.offset_of]

/-- A run that is interrupted completes the task under way. All the tasks behind
that one can be dropped: what always runs is the first. -/
theorem interrupted (going : run.Going now done consumed) :
    ∃ told, told <+: (Reading.of now consumed).deliveries ∧ ∀ last : Option Delivery,
      done ++ (run.pending.take 1 ++ Task.discard (run.pending.drop 1) last) =
        plan told ++ (last.map Task.kept).toList := by
  have planned := going.planned
  -- The first task is still pending, or it is done and only ordinary ones are left.
  cases done with
  | nil =>
      refine ⟨[], List.nil_prefix, ?_⟩
      intro last
      rw [List.nil_append] at planned
      rw [planned, plan, List.drop_one, List.tail_cons, discard_ordinary]
      rfl
  | cons first done =>
      rw [plan, List.cons_append, List.cons_eq_cons] at planned
      rcases planned with ⟨rfl, split⟩
      rcases List.map_eq_append_iff.mp split.symm with ⟨told, left, whole, rfl, pending⟩
      rw [← pending, whole]
      cases left with
      | nil =>
          refine ⟨told, List.prefix_append _ _, ?_⟩
          intro last
          simp [plan, Task.discard]
      | cons next left =>
          refine ⟨told ++ [next], by simp, ?_⟩
          intro last
          rw [List.map_cons, List.drop_one, List.tail_cons, discard_ordinary]
          simp [plan]

theorem aborted (going : run.Going now done consumed) (cause : Failure) :
    Tells now done consumed
      { run with pending := run.pending.take 1 ++ Task.discard (run.pending.drop 1) none }
      (.closing (.error cause)) (some .aborted) := by
  rcases going.interrupted with ⟨told, isPrefix, planned⟩
  have whole := planned none
  rw [Option.map_none, Option.toList_none, List.append_nil] at whole
  exact .failed isPrefix whole

theorem stopped (going : run.Going now done consumed) :
    Tells now done consumed
      { run with
        pending := run.pending.take 1 ++
          Task.discard (run.pending.drop 1) (some [.status .finish]) }
      (.closing (.ok ())) (some .stopped) := by
  rcases going.interrupted with ⟨told, isPrefix, planned⟩
  exact .stopped isPrefix (planned (some [.status .finish]))

theorem absorb {scene : Scene} (going : run.Going scene.now done consumed)
    (contents : FileContents) :
    let reading := run.reader.readOn scene.now contents
    let bytes := contents.toList.drop run.reader.offset
    reading.fault = none ∧
      reading.malformed + (Reading.of scene.now consumed).malformed =
        (Reading.of scene.now (consumed ++ bytes)).malformed ∧
      (scene.absorb run reading).2.Going scene.now done (consumed ++ bytes) := by
  have resting := Reading.of_isResting scene.now consumed
  rw [← going.reader] at resting
  dsimp only
  rw [Reader.readOn_eq_atOnce resting, Reading.of_append, ← going.reader]
  refine ⟨rfl, Nat.add_comm _ _, ?_, ?_⟩
  · rw [Reading.of_append, ← going.reader]
    rfl
  · rw [Reading.of_append, ← going.reader]
    dsimp only [Scene.absorb]
    rw [← List.append_assoc, going.planned, plan, plan, List.map_append, List.cons_append]

end Going

end Run

namespace Scene

structure Tells (scene : Scene) (done : List (Task Delivery)) (consumed : List UInt8)
    (ending : Option Ending) : Prop where
  run : ∃ run phase, scene.session.run = some (run, phase) ∧
    run.Tells scene.now done consumed phase ending
  malformed : scene.session.malformed = (Reading.of scene.now consumed).malformed

/-- How the run of a scene is to end when it has just read on: not at all, if it
sleeps again. -/
def fate (scene : Scene) : Option Ending :=
  match scene.session.run with
  | some (_, .asleep _) => none
  | _ => some .aborted

theorem tells_of_nothing {after : Scene} {done : List (Task Delivery)}
    {consumed : List UInt8} {offset : Nat} (nothing : after.readable offset = [])
    (tells : after.Tells done consumed after.fate) :
    after.Tells done (consumed ++ after.readable offset) after.fate := by
  rw [nothing, List.append_nil]
  exact tells

structure Going (scene : Scene) (run : Run) (done : List (Task Delivery))
    (consumed : List UInt8) : Prop where
  sound : scene.files.IsSound
  run : run.Going scene.now done consumed
  malformed : scene.session.malformed = (Reading.of scene.now consumed).malformed

section

variable {scene : Scene} {run : Run} {done : List (Task Delivery)} {consumed : List UInt8}

theorem Going.absorb (going : scene.Going run done consumed) {contents : FileContents}
    (present : scene.log = .ok (.file contents)) :
    let reading := run.reader.readOn scene.now contents
    let read := scene.absorb run reading
    reading.fault = none ∧
      read.1.Going read.2 done (consumed ++ scene.readable run.reader.offset) ∧
      read.1.readable read.2.reader.offset = [] := by
  intro reading read
  rcases going.run.absorb contents with ⟨faultless, counted, goingOn⟩
  rw [← readable_of_file present] at counted goingOn
  refine ⟨faultless, ⟨going.sound, goingOn, ?_⟩, ?_⟩
  · rw [Nat.add_comm, ← going.malformed] at counted
    exact counted
  · have nothing : scene.readable read.2.reader.offset = [] := by
      rw [goingOn.offset, List.length_append, ← going.run.offset, readable_of_file present,
        readable_of_file present, List.length_drop]
      exact List.drop_eq_nil_of_le (by omega)
    exact nothing

/-- What lands while a watch is registered is not read yet. -/
theorem Going.watching (going : scene.Going run done consumed)
    (landed : Option (List UInt8)) (replies : List WatchReply) :
    (scene.withdrawn landed replies).Going run done consumed where
  sound := (scene.watching_surrounds landed replies).sound going.sound
  run := going.run
  malformed := going.malformed

private theorem Going.tells_of_absorb (going : scene.Going run done consumed)
    {contents : FileContents} (present : scene.log = .ok (.file contents)) {after : Scene}
    (around : scene.Surrounds after)
    (tells : after.Tells done (consumed ++ scene.readable run.reader.offset ++ after.readable
      (scene.absorb run (run.reader.readOn scene.now contents)).2.reader.offset) after.fate) :
    after.Tells done (consumed ++ after.readable run.reader.offset) after.fate := by
  rcases going.absorb present with ⟨_, goingOn, _⟩
  rw [goingOn.run.offset, List.length_append, ← going.run.offset, List.append_assoc,
    ← (around.grows going.sound).readable_eq run.reader.offset] at tells
  exact tells

theorem Awaits.tells {after : Scene} (awaits : scene.Awaits run after)
    (going : scene.Going run done consumed)
    (nothing : scene.readable run.reader.offset = []) :
    after.Tells done (consumed ++ after.readable run.reader.offset) after.fate := by
  induction awaits generalizing consumed with
  | last scene run =>
      exact tells_of_nothing nothing ⟨⟨run, _, rfl, .asleep going.run⟩, going.malformed⟩
  | refused scene run cause replies =>
      exact tells_of_nothing nothing ⟨⟨run, _, rfl, .refused going.run⟩, going.malformed⟩
  | refusedAtOnce scene run cause replies =>
      exact tells_of_nothing nothing ⟨⟨_, _, rfl, going.run.aborted cause⟩, going.malformed⟩
  | @unchanged scene run landed replies unchanged =>
      have still : (scene.watching landed replies).readable run.reader.offset = [] :=
        readable_eq_nil unchanged
      exact tells_of_nothing still ⟨⟨run, _, rfl, .asleep going.run⟩, going.malformed⟩
  | @faulty scene run landed replies contents fault present faulty =>
      have goingOn := going.watching landed replies
      rcases goingOn.absorb present with ⟨faultless, _, _⟩
      cases faultless.symm.trans faulty
  | @grown scene after run landed replies contents present awaits induction =>
      have goingOn := going.watching landed replies
      rcases goingOn.absorb present with ⟨_, read, readAll⟩
      exact goingOn.tells_of_absorb present
        ((absorb_surrounds _ _ _).trans awaits.surrounds) (induction read readAll)

theorem follow_tells (going : scene.Going run done consumed) {entry : FileEntry}
    (present : scene.log = .ok entry) :
    let after := scene.follow run entry
    after.Tells done (consumed ++ after.readable run.reader.offset) after.fate := by
  cases entry with
  | directory =>
      have nothing : scene.readable run.reader.offset = [] :=
        readable_eq_nil fun contents file => nomatch present.symm.trans file
      exact tells_of_nothing nothing ⟨⟨_, _, rfl, going.run.aborted _⟩, going.malformed⟩
  | file contents =>
      rcases going.absorb present with ⟨faultless, read, readAll⟩
      rw [follow]
      dsimp only
      rw [faultless]
      have awaits := await_awaits (scene.absorb run (run.reader.readOn scene.now contents)).1
        (scene.absorb run (run.reader.readOn scene.now contents)).2 scene.replies
      exact going.tells_of_absorb present
        ((absorb_surrounds _ _ _).trans awaits.surrounds) (awaits.tells read readAll)

theorem wake_tells (going : scene.Going run done consumed) (token : WatchToken) :
    let after := scene.wake run token
    after.Tells done (consumed ++ after.readable run.reader.offset) after.fate := by
  have goingOn : Going { scene with registry := scene.registry.unregister token } run done
      consumed := ⟨going.sound, going.run, going.malformed⟩
  have nothing : ∀ error, scene.log = .error error → scene.readable run.reader.offset = [] :=
    fun error absent => readable_eq_nil fun contents present => nomatch absent.symm.trans present
  unfold wake
  dsimp only
  split
  · next entry present => exact follow_tells goingOn present
  · next absent => exact (await_awaits _ _ _).tells goingOn (nothing _ absent)
  · next error _ failed =>
      exact tells_of_nothing (nothing _ failed)
        ⟨⟨_, _, rfl, going.run.aborted _⟩, going.malformed⟩

end

end Scene

end ReceiverLog
