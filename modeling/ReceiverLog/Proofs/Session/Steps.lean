import ReceiverLog.Proofs.Session.Surroundings

namespace ReceiverLog

/-! What every step of a session keeps. -/

theorem Consumer.hears_eq {first second : Consumer} (rawOnly : first.rawOnly = second.rawOnly) :
    first.hears = second.hears := by
  funext event
  cases event <;> simp [hears, rawOnly]

namespace Scene

def takeAll (scene : Scene) (steps : List SessionStep) : Scene :=
  steps.foldl (fun scene step => (scene.take step).2) scene

theorem drop_eq_takeAll (scene : Scene) : scene.drop = scene.takeAll [.stop, .join] :=
  rfl

theorem takeAll_induction {holds : Scene → Prop}
    (kept : ∀ {scene : Scene}, holds scene → ∀ step, holds (scene.take step).2)
    {scene : Scene} (begins : holds scene) (steps : List SessionStep) :
    holds (scene.takeAll steps) := by
  induction steps generalizing scene with
  | nil => exact begins
  | cons step steps induction => exact induction (kept begins step)

/-- A session that has yet to be started, with an empty log in the root directory. -/
def unstarted : Scene where
  session := .idle { directory := "/", file := "gps.nmea", mock := none }
  files := FileTree.empty.add FileTree.root "gps.nmea" (.file .empty)
  working := FileTree.root
  registry := .empty
  replies := []
  consumer := { holdsBack := false, rawOnly := false, heard := [] }
  now := 0

theorem unstarted_isSound : unstarted.files.IsSound :=
  FileTree.empty_isSound.add _ _ _

/-! ## What stays as it is -/

structure Keeps (before after : Scene) : Prop where
  now : after.now = before.now
  working : after.working = before.working
  settings : after.session.settings = before.session.settings
  rawOnly : after.consumer.rawOnly = before.consumer.rawOnly
  sound : before.files.IsSound → after.files.IsSound

namespace Keeps

variable {before between after : Scene}

theorem refl (scene : Scene) : scene.Keeps scene :=
  ⟨rfl, rfl, rfl, rfl, id⟩

theorem trans (first : before.Keeps between) (second : between.Keeps after) :
    before.Keeps after where
  now := second.now.trans first.now
  working := second.working.trans first.working
  settings := second.settings.trans first.settings
  rawOnly := second.rawOnly.trans first.rawOnly
  sound := fun sound => second.sound (first.sound sound)

theorem hears (keeps : before.Keeps after) : after.consumer.hears = before.consumer.hears :=
  Consumer.hears_eq keeps.rawOnly

end Keeps

theorem Surrounds.keeps {before after : Scene} (surrounds : before.Surrounds after) :
    before.Keeps after where
  now := surrounds.now
  working := surrounds.working
  settings := surrounds.settings
  rawOnly := by rw [surrounds.consumer]
  sound := surrounds.sound

theorem settle_files (scene : Scene) : scene.settle.files = scene.files := by
  rw [settle]
  split
  · rfl
  · dsimp only
    split <;> rfl

theorem settle_keeps (scene : Scene) : scene.Keeps scene.settle := by
  have work : ∀ tasks, (scene.consumer.work tasks).1.rawOnly = scene.consumer.rawOnly := by
    intro tasks
    rw [Consumer.work]
    split <;> rfl
  rw [settle]
  split
  · exact .refl scene
  · dsimp only
    split <;> exact ⟨rfl, rfl, rfl, work _, id⟩

theorem start_keeps (scene : Scene) : scene.Keeps scene.start.2 := by
  rw [start]
  split
  · exact .refl scene
  split
  · exact .refl scene
  · dsimp only
    split
    · exact ⟨rfl, rfl, rfl, rfl, id⟩
    · refine .trans ?_ (.trans (follow_surrounds _ _ _).keeps (settle_keeps _))
      exact ⟨rfl, rfl, rfl, rfl, id⟩

theorem close_keeps (scene : Scene) (run : Run) : scene.Keeps (scene.close run) := by
  rw [close]
  refine .trans ?_ (settle_keeps _)
  exact ⟨rfl, rfl, rfl, rfl, id⟩

theorem stop_keeps (scene : Scene) : scene.Keeps scene.stop.2 := by
  rw [stop]
  split
  · exact .refl scene
  split
  · refine .trans ?_ (close_keeps _ _)
    exact ⟨rfl, rfl, rfl, rfl, id⟩
  · exact .refl scene
  · exact ⟨rfl, rfl, rfl, rfl, id⟩
  · exact .refl scene

theorem join_keeps (scene : Scene) : scene.Keeps scene.join.2 := by
  rw [join]
  split
  · exact .refl scene
  · exact ⟨rfl, rfl, rfl, rfl, id⟩
  · exact .refl scene

theorem takeFileStep_keeps (scene : Scene) (step : FileStep) :
    scene.Keeps (scene.takeFileStep step).2 := by
  rw [takeFileStep]
  split
  · next files applied =>
      exact ⟨rfl, rfl, rfl, rfl, fun sound => FileStep.apply_isSound sound step applied⟩
  · exact .refl scene

theorem notice_keeps (scene : Scene) (change : Change) :
    scene.Keeps (scene.notice change).2 := by
  simp only [notice]
  split
  · split
    · exact (wake_surrounds _ _ _).keeps.trans (settle_keeps _)
    · exact .refl scene
  · exact .refl scene

theorem setHolding_keeps (scene : Scene) (holdsBack : Bool) :
    scene.Keeps (scene.setHolding holdsBack) := by
  refine .trans ?_ (settle_keeps _)
  exact ⟨rfl, rfl, rfl, rfl, id⟩

theorem take_keeps (scene : Scene) (step : SessionStep) : scene.Keeps (scene.take step).2 := by
  cases step with
  | start => exact scene.start_keeps
  | stop => exact scene.stop_keeps
  | join => exact scene.join_keeps
  | file step => exact scene.takeFileStep_keeps step
  | notice change => exact scene.notice_keeps change
  | reply reply => exact ⟨rfl, rfl, rfl, rfl, id⟩
  | hold => exact scene.setHolding_keeps true
  | release => exact scene.setHolding_keeps false

theorem takeAll_keeps (scene : Scene) (steps : List SessionStep) :
    scene.Keeps (scene.takeAll steps) := by
  induction steps generalizing scene with
  | nil => exact .refl scene
  | cons step steps induction => exact (scene.take_keeps step).trans (induction _)

/-! ## What a step comes to -/

inductive Moves (scene : Scene) : Scene → Prop
  /-- It moves nothing, or only what is around the session. -/
  | rests {after : Scene} : after.session.run = scene.session.run →
      after.session.state = scene.session.state → after.registry = scene.registry →
      after.consumer = scene.consumer → Moves scene after
  | fails : scene.session.run = none →
      Moves scene
        { scene with session := { scene.session with state := .idle, outcome := none } }
  | begins {entry : FileEntry} : scene.session.run = none → scene.log = .ok entry →
      Moves scene (scene.renewed.follow beginRun entry).settle
  | wakes {run : Run} {token : WatchToken} : scene.session.run = some (run, .asleep token) →
      Moves scene (scene.wake run token).settle
  | closes {run : Run} {token : WatchToken} : scene.session.run = some (run, .asleep token) →
      Moves scene ({ scene with registry := scene.registry.unregister token }.close run)
  /-- A run that is ending already is told to stop. -/
  | stops {run : Run} {outcome : Except Failure Unit} :
      scene.session.run = some (run, .closing outcome) →
      Moves scene { scene with session := { scene.session with state := .stopping } }
  | holds (holdsBack : Bool) : Moves scene (scene.setHolding holdsBack)

theorem Moves.refl (scene : Scene) : scene.Moves scene :=
  .rests rfl rfl rfl rfl

theorem start_moves (scene : Scene) : scene.Moves scene.start.2 := by
  rw [start]
  split
  · exact .refl scene
  split
  · exact .refl scene
  · next present =>
      have absent := Option.not_isSome_iff_eq_none.mp present
      split
      · exact .fails absent
      · next entry opened => exact .begins absent opened

theorem stop_moves (scene : Scene) : scene.Moves scene.stop.2 := by
  rw [stop]
  split
  · exact .refl scene
  split
  · next run token asleep => exact .closes asleep
  · exact .refl scene
  · next run outcome closing => exact .stops closing
  · exact .refl scene

theorem join_moves (scene : Scene) : scene.Moves scene.join.2 := by
  rw [join]
  split
  · exact .refl scene
  · exact .rests rfl rfl rfl rfl
  · exact .refl scene

theorem takeFileStep_moves (scene : Scene) (step : FileStep) :
    scene.Moves (scene.takeFileStep step).2 := by
  rw [takeFileStep]
  split
  · exact .rests rfl rfl rfl rfl
  · exact .refl scene

theorem notice_moves (scene : Scene) (change : Change) :
    scene.Moves (scene.notice change).2 := by
  simp only [notice]
  split
  · next run token asleep =>
      split
      · exact .wakes asleep
      · exact .refl scene
  · exact .refl scene

theorem take_moves (scene : Scene) (step : SessionStep) : scene.Moves (scene.take step).2 := by
  cases step with
  | start => exact scene.start_moves
  | stop => exact scene.stop_moves
  | join => exact scene.join_moves
  | file step => exact scene.takeFileStep_moves step
  | notice change => exact scene.notice_moves change
  | reply reply => exact .rests rfl rfl rfl rfl
  | hold => exact .holds true
  | release => exact .holds false

/-! ## What can move has moved -/

structure IsConsistent (scene : Scene) : Prop where
  idle : scene.session.run = none → scene.session.state.isRunning = false
  asleep : ∀ run token, scene.session.run = some (run, .asleep token) →
    scene.session.state.isRunning = true

/-- And a consumer that does not hold back has taken all there is, so that only
a sleeping run is left. -/
structure IsSettled (scene : Scene) : Prop extends scene.IsConsistent where
  released : scene.consumer.holdsBack = false → ∀ run phase,
    scene.session.run = some (run, phase) → run.pending = [] ∧ ∃ token, phase = .asleep token

theorem IsConsistent.of_running {scene : Scene} {run : Run} {phase : RunPhase}
    (present : scene.session.run = some (run, phase))
    (running : scene.session.state.isRunning = true) : scene.IsConsistent where
  idle := fun absent => nomatch present.symm.trans absent
  asleep := fun _ _ _ => running

theorem IsConsistent.of_awake {scene : Scene} {run : Run} {phase : RunPhase}
    (present : scene.session.run = some (run, phase))
    (awake : ∀ token, phase ≠ .asleep token) : scene.IsConsistent where
  idle := fun absent => nomatch present.symm.trans absent
  asleep := by
    intro other token asleep
    cases present.symm.trans asleep
    exact absurd rfl (awake token)

theorem IsConsistent.of_closing {scene : Scene} {run : Run} {outcome : Except Failure Unit}
    (present : scene.session.run = some (run, .closing outcome)) : scene.IsConsistent :=
  .of_awake present (by simp)

theorem IsSettled.of_idle {scene : Scene} (absent : scene.session.run = none)
    (idle : scene.session.state.isRunning = false) : scene.IsSettled where
  idle := fun _ => idle
  asleep := fun _ _ present => nomatch absent.symm.trans present
  released := fun _ _ _ present => nomatch absent.symm.trans present

theorem IsSettled.congr {before after : Scene} (settled : before.IsSettled)
    (run : after.session.run = before.session.run)
    (state : after.session.state = before.session.state)
    (consumer : after.consumer = before.consumer) : after.IsSettled where
  idle := by
    rw [run, state]
    exact settled.idle
  asleep := by
    rw [run, state]
    exact settled.asleep
  released := by
    rw [run, consumer]
    exact settled.released

end Scene

theorem Consumer.work_released {consumer : Consumer} (released : consumer.holdsBack = false)
    (tasks : List (Task Delivery)) : (consumer.work tasks).2 = [] := by
  rw [work]
  rw [released]
  rfl

theorem Consumer.work_holdsBack (consumer : Consumer) (tasks : List (Task Delivery)) :
    (consumer.work tasks).1.holdsBack = consumer.holdsBack := by
  rw [work]
  split <;> rfl

namespace Scene

theorem settle_isSettled {scene : Scene} (consistent : scene.IsConsistent) :
    scene.settle.IsSettled := by
  rw [settle]
  rcases found : scene.session.run with _ | ⟨run, phase⟩
  · refine ⟨consistent, ?_⟩
    intro _ run phase present
    cases found.symm.trans present
  · dsimp only
    have unpaused : (scene.consumer.work run.pending).1.holdsBack = false →
        (scene.consumer.work run.pending).2 = [] := by
      rw [Consumer.work_holdsBack]
      intro released
      exact Consumer.work_released released run.pending
    cases left : (scene.consumer.work run.pending).2 with
    | nil =>
        cases phase with
        | asleep token =>
            refine ⟨⟨nofun, fun _ _ _ => consistent.asleep run token found⟩, ?_⟩
            intro _ later phase present
            cases present
            exact ⟨rfl, token, rfl⟩
        | _ => exact .of_idle rfl rfl
    | cons task rest =>
        have held : (scene.consumer.work run.pending).1.holdsBack = false → False := by
          intro released
          cases left.symm.trans (unpaused released)
        cases phase with
        | asleep token =>
            exact ⟨⟨nofun, fun _ _ _ => consistent.asleep run token found⟩,
              fun released => (held released).elim⟩
        | _ => exact ⟨.of_awake rfl nofun, fun released => (held released).elim⟩

/-! A run that reads on, waits or is aborted is a running one. -/

private theorem Awaits.isConsistent {scene after : Scene} {run : Run}
    (awaits : scene.Awaits run after) : after.IsConsistent := by
  induction awaits with
  | last scene run => exact .of_running rfl rfl
  | refused scene run cause replies => exact .of_running rfl rfl
  | refusedAtOnce scene run cause replies => exact .of_closing rfl
  | unchanged _ => exact .of_running rfl rfl
  | faulty _ _ => exact .of_closing rfl
  | grown _ _ induction => exact induction

theorem follow_consistent (scene : Scene) (run : Run) (entry : FileEntry) :
    (scene.follow run entry).IsConsistent := by
  cases entry with
  | directory => exact .of_closing rfl
  | file contents =>
      rw [follow]
      dsimp only
      split
      · exact .of_closing rfl
      · exact (await_awaits _ _ _).isConsistent

theorem wake_consistent (scene : Scene) (run : Run) (token : WatchToken) :
    (scene.wake run token).IsConsistent := by
  unfold wake
  dsimp only
  split
  · exact follow_consistent _ _ _
  · exact (await_awaits _ _ _).isConsistent
  · exact .of_closing rfl

theorem close_isSettled (scene : Scene) (run : Run) : (scene.close run).IsSettled := by
  rw [close]
  exact settle_isSettled (.of_closing rfl)

theorem Moves.isSettled {scene after : Scene} (moves : scene.Moves after)
    (settled : scene.IsSettled) : after.IsSettled := by
  cases moves with
  | rests run state _ consumer => exact settled.congr run state consumer
  | fails absent => exact .of_idle absent rfl
  | begins _ _ => exact settle_isSettled (follow_consistent _ _ _)
  | wakes _ => exact settle_isSettled (wake_consistent _ _ _)
  | closes _ => exact close_isSettled _ _
  | stops closing =>
      refine ⟨.of_closing closing, ?_⟩
      intro released run phase present
      rcases settled.released released run phase present with ⟨_, token, rfl⟩
      cases closing.symm.trans present
  | holds holdsBack => exact settle_isSettled ⟨settled.idle, settled.asleep⟩

theorem take_isSettled {scene : Scene} (settled : scene.IsSettled) (step : SessionStep) :
    (scene.take step).2.IsSettled :=
  (scene.take_moves step).isSettled settled

theorem takeAll_isSettled {scene : Scene} (settled : scene.IsSettled)
    (steps : List SessionStep) : (scene.takeAll steps).IsSettled :=
  takeAll_induction take_isSettled settled steps

end Scene

end ReceiverLog
