import ReceiverLog.Proofs.Session.Bracketing
import ReceiverLog.Proofs.Session.Pasts
import ReceiverLog.Proofs.Session.Registrations

namespace ReceiverLog

/-! A session that is started again. Nothing of the runs before shows. -/

/-- What can be seen of a step, with the events since the step before. The times of
the events are left out. -/
structure Observation where
  answer : StepAnswer
  state : SessionState
  offset : Nat
  malformed : Nat
  registered : Nat
  events : List Event

namespace Scene

/-! ## What is seen of steps -/

def observe (scene : Scene) (step : SessionStep) : Observation :=
  let (answer, after) := scene.take step
  { answer
    state := after.session.state
    offset := after.session.offset
    malformed := after.session.malformed
    registered := after.registry.active
    events := (after.consumer.heard.drop scene.consumer.heard.length).map (·.stamped 0) }

def observations (scene : Scene) : List SessionStep → List Observation
  | [] => []
  | step :: steps => scene.observe step :: (scene.take step).2.observations steps

theorem drop_stamped (past : Past) (before later : List Event) :
    ((past.heard ++ later.map (·.stamped past.now)).drop
      (past.heard ++ before.map (·.stamped past.now)).length).map (·.stamped 0) =
        (later.drop before.length).map (·.stamped 0) := by
  rw [List.length_append, List.drop_length_add_append, List.length_map, ← List.map_drop,
    List.map_map]
  simp [Function.comp_def]

theorem observe_eq {past : Past} {scene other : Scene} {step : SessionStep}
    (consumer : other.consumer = scene.consumer.behind past)
    (taken : other.take step = ((scene.take step).1, (scene.take step).2.behind past)) :
    other.observe step = scene.observe step := by
  rw [observe, observe, taken, consumer]
  dsimp only
  rw [behind_offset]
  have events := drop_stamped past scene.consumer.heard (scene.take step).2.consumer.heard
  simp only [behind, Consumer.behind, WatchRegistry.active_behind, events]

theorem observations_behind (past : Past) (scene : Scene) (steps : List SessionStep) :
    (scene.behind past).observations steps = scene.observations steps := by
  induction steps generalizing scene with
  | nil => rfl
  | cons step steps induction =>
      rw [observations, observations, observe_eq rfl (scene.take_behind past step),
        scene.take_behind past step]
      exact congrArg (_ :: ·) (induction _)

/-! ## Starting again -/

/-- A session that has never been started, on the same files and with the same replies
to come, at another time. -/
def brandNew (scene : Scene) (now : Int) : Scene :=
  { scene with
    session := .idle scene.session.settings
    registry := .empty
    consumer := { scene.consumer with heard := [] }
    now }

def past (scene : Scene) : Past where
  heard := scene.consumer.heard
  drawn := scene.registry.nextToken
  now := scene.now

section

theorem brandNew_consumer (scene : Scene) (now : Int) :
    scene.consumer = (scene.brandNew now).consumer.behind scene.past := by
  simp [brandNew, past, Consumer.behind]

variable {scene : Scene}

private theorem brandNew_renewed (absent : scene.session.run = none)
    (nothing : scene.registry.watches = []) (now : Int) :
    scene.renewed = (scene.brandNew now).renewed.behind scene.past := by
  have registry : scene.registry = WatchRegistry.empty.behind scene.registry.nextToken := by
    rw [WatchRegistry.behind, WatchRegistry.empty, List.map_nil, ← nothing]
    rfl
  have consumer := scene.brandNew_consumer now
  have session : scene.renewed.session =
      ((scene.brandNew now).renewed.behind scene.past).session := by
    rw [renewed]
    dsimp only
    rw [absent]
    rfl
  rw [behind, Scene.mk.injEq]
  exact ⟨session, rfl, rfl, registry, rfl, consumer, rfl⟩

theorem IsOrderly.of_ended (orderly : scene.IsOrderly)
    (ended : scene.session.state ∈ [.idle, .stopped]) :
    scene.session.run = none ∧ scene.session.state.isRunning = false ∧
      scene.registry.watches = [] := by
  simp only [List.mem_cons, List.not_mem_nil, or_false] at ended
  have rests := SessionState.hasRun_eq_false_iff.mpr ended
  cases orderly with
  | absent absent _ nothing =>
      refine ⟨absent, ?_, nothing⟩
      rcases ended with state | state <;> rw [state] <;> rfl
  | asleep _ awaits _ =>
      rw [awaits] at rests
      cases rests
  | ending _ _ going _ => cases going.symm.trans rests

theorem start_brandNew (absent : scene.session.run = none)
    (idle : scene.session.state.isRunning = false)
    (nothing : scene.registry.watches = []) {entry : FileEntry}
    (present : scene.log = .ok entry) (now : Int) :
    scene.start =
      ((scene.brandNew now).start.1, (scene.brandNew now).start.2.behind scene.past) := by
  have presentNew : (scene.brandNew now).log = .ok entry := present
  have followed := follow_behind scene.past (scene.brandNew now).renewed beginRun entry
  rw [start_opens idle absent present, start_opens rfl rfl presentNew, ← settle_behind,
    ← followed, ← brandNew_renewed absent nothing]
  rfl

theorem observations_brandNew (absent : scene.session.run = none)
    (idle : scene.session.state.isRunning = false)
    (nothing : scene.registry.watches = []) {entry : FileEntry}
    (present : scene.log = .ok entry) (now : Int) (steps : List SessionStep) :
    scene.observations (.start :: steps) =
      (scene.brandNew now).observations (.start :: steps) := by
  have started : scene.take .start =
      (((scene.brandNew now).take .start).1,
        ((scene.brandNew now).take .start).2.behind scene.past) :=
    start_brandNew absent idle nothing present now
  rw [observations, observations, observe_eq (scene.brandNew_consumer now) started, started]
  exact congrArg (_ :: ·) (observations_behind _ _ _)

theorem start_reader (sound : scene.files.IsSound) (absent : scene.session.run = none)
    (idle : scene.session.state.isRunning = false) (opens : scene.log.isOk = true) {run : Run}
    {token : WatchToken} (asleep : scene.start.2.session.run = some (run, .asleep token)) :
    run.reader = (Reading.of scene.now (scene.start.2.readable 0)).reader := by
  have keeps := scene.start_keeps
  have nothingYet : scene.Recounts scene.consumer.heard [] := ⟨absent, rfl⟩
  have recounts := start_recounts sound (.of_idle absent idle) nothingYet
  rcases recounts.exists_latest (keeps.sound sound) asleep with ⟨latest, _, records, _, reader⟩
  rw [note, absent, opens] at records
  cases records
  rw [← keeps.now]
  exact reader

private theorem start_fails (idle : scene.session.state.isRunning = false)
    (absent : scene.session.run = none) {error : FileError} (missing : scene.log = .error error) :
    scene.start = (.failed (openFailure scene.session.settings.path error),
      { scene with session := { scene.session with state := .idle, outcome := none } }) := by
  rw [start, idle, absent]
  dsimp only
  rw [missing]
  rfl

/-- However a session has come to be idle or stopped, from its next start on it shows what
a session shows that has never been started: that start reads the log from its first byte
with a decoder and a fix of its own. A start that cannot open the log leaves the session
idle, with nothing heard and nothing registered. -/
theorem observations_restarted {scene : Scene} (isNew : scene.IsNew)
    (sound : scene.files.IsSound) (history : List SessionStep)
    (ended : (scene.takeAll history).session.state ∈ [.idle, .stopped]) (now : Int) :
    let old := scene.takeAll history
    let new := old.brandNew now
    let started := old.start.2
    new.session = scene.session ∧
    (old.log.isOk →
      (∀ steps, old.observations (.start :: steps) = new.observations (.start :: steps)) ∧
      ∀ run token, started.session.run = some (run, .asleep token) →
        run.reader = (Reading.of old.now (started.readable 0)).reader) ∧
    (∀ error, old.log = .error error →
      old.start.1 = .failed (openFailure scene.session.settings.path error) ∧
      started.session.state = .idle ∧ started.consumer.heard = old.consumer.heard ∧
      started.registry = old.registry ∧ started.registry.active = 0) := by
  intro old new started
  have keeps := scene.takeAll_keeps history
  have orderly : old.IsOrderly := takeAll_induction take_isOrderly isNew.isOrderly history
  rcases orderly.of_ended ended with ⟨absent, idle, nothing⟩
  refine ⟨?_, ?_, ?_⟩
  · rw [isNew.session]
    exact congrArg Session.idle keeps.settings
  · intro opens
    rcases present : old.log with error | entry
    · rw [present] at opens
      cases opens
    refine ⟨observations_brandNew absent idle nothing present now, ?_⟩
    intro run token asleep
    exact start_reader (keeps.sound sound) absent idle opens asleep
  · intro error missing
    have failed := start_fails idle absent missing
    have registry : started.registry = old.registry := by
      simp only [started, failed]
    refine ⟨?_, ?_, ?_, registry, ?_⟩
    · rw [failed, keeps.settings]
    · simp only [started, failed]
    · simp only [started, failed]
    · rw [registry, WatchRegistry.active, nothing, List.length_nil]

/-- A run that is stopped with a wrong checksum counted and a sentence carried over,
then a start that fails, and then a log again. -/
theorem observations_restarted_carrying :
    let path := unstarted.session.settings.path
    let history : List SessionStep := [
      .file (.append path [startMarker, 66, star, 48, 48, startMarker, 71]), .start, .stop,
      .file (.remove path), .start, .file (.append path [startMarker])]
    let old := unstarted.takeAll history
    (unstarted.takeAll (history.take 2)).session.malformed = 1 ∧
      (unstarted.takeAll (history.take 5)).start.2.registry.active = 0 ∧
      old.session.state = .idle ∧ old.session.malformed = 1 ∧
      ∀ steps, old.observations (.start :: steps) =
        (old.brandNew 1).observations (.start :: steps) := by
  intro path history old
  have isNew : unstarted.IsNew := ⟨rfl, rfl⟩
  have ended : (unstarted.takeAll history).session.state ∈ [.idle, .stopped] := by
    decide +kernel
  have missing : (unstarted.takeAll (history.take 5)).log = .error .notFound := by
    decide +kernel
  have failed : (unstarted.takeAll (history.take 5)).session.state ∈ [.idle, .stopped] := by
    decide +kernel
  have restarted := observations_restarted isNew unstarted_isSound history ended 1
  have refused := observations_restarted isNew unstarted_isSound (history.take 5) failed 1
  refine ⟨by decide +kernel, ?_, by decide +kernel, by decide +kernel, ?_⟩
  · exact (refused.2.2 _ missing).2.2.2.2
  · exact (restarted.2.1 (by decide +kernel)).1

end

end Scene

end ReceiverLog
