import ReceiverLog.Proofs.Session.Steps

namespace ReceiverLog

/-! When a session has a watch registered. It has one exactly while its run sleeps,
and never two: every way of waking, ending or stopping a run withdraws the watch
before another can be registered. -/

namespace WatchRegistry

theorem watches_unregister_grant {registry : WatchRegistry} (nothing : registry.watches = [])
    (directory : String) :
    ((registry.grant directory).unregister registry.upcoming).watches = [] := by
  simp [grant, unregister, nothing]

theorem tokens_grant {registry : WatchRegistry} (nothing : registry.watches = [])
    (directory : String) :
    (registry.grant directory).watches.map (·.token) = [registry.upcoming] := by
  simp [grant, nothing]

theorem watches_unregister {registry : WatchRegistry} {token : WatchToken}
    (lone : registry.watches.map (·.token) = [token]) :
    (registry.unregister token).watches = [] := by
  have all : ∀ watch ∈ registry.watches, watch.token = token := by
    intro watch member
    have listed : watch.token ∈ registry.watches.map (·.token) := List.mem_map_of_mem member
    rw [lone, List.mem_singleton] at listed
    exact listed
  rw [unregister, List.filter_eq_nil_iff]
  intro watch member
  simp [all watch member]

end WatchRegistry

def RunPhase.token? : RunPhase → Option WatchToken
  | .asleep token => some token
  | _ => none

/-- The states that a session has while there is a run. -/
def SessionState.hasRun : SessionState → Bool
  | .idle => false
  | .stopped => false
  | _ => true

theorem SessionState.hasRun_eq_false_iff {state : SessionState} :
    state.hasRun = false ↔ state = .idle ∨ state = .stopped := by
  cases state <;> decide

namespace Scene

/-! ## The run, the state and the watch -/

/-- How the state of a session and the live watches go with its run. -/
inductive IsOrderly (scene : Scene) : Prop
  | absent : scene.session.run = none → scene.session.state.hasRun = false →
      scene.registry.watches = [] → IsOrderly scene
  | asleep {run : Run} {token : WatchToken} : scene.session.run = some (run, .asleep token) →
      scene.session.state = .awaitingChange →
      scene.registry.watches.map (·.token) = [token] → IsOrderly scene
  | ending {run : Run} {phase : RunPhase} : scene.session.run = some (run, phase) →
      phase.token? = none → scene.session.state.hasRun = true →
      scene.registry.watches = [] → IsOrderly scene

namespace IsOrderly

variable {scene : Scene}

theorem congr {after : Scene} (orderly : scene.IsOrderly)
    (run : after.session.run = scene.session.run)
    (state : after.session.state = scene.session.state)
    (registry : after.registry = scene.registry) : after.IsOrderly := by
  cases orderly with
  | absent absent rests nothing =>
      exact .absent (run.trans absent) (state ▸ rests) (registry ▸ nothing)
  | asleep present awaits lone =>
      exact .asleep (run.trans present) (state.trans awaits) (registry ▸ lone)
  | ending present awake going nothing =>
      exact .ending (run.trans present) awake (state ▸ going) (registry ▸ nothing)

theorem watches_of_awake (orderly : scene.IsOrderly)
    (awake : ∀ run token, scene.session.run ≠ some (run, .asleep token)) :
    scene.registry.watches = [] := by
  cases orderly with
  | absent _ _ nothing => exact nothing
  | asleep present _ _ => exact absurd present (awake _ _)
  | ending _ _ _ nothing => exact nothing

theorem of_asleep (orderly : scene.IsOrderly) {run : Run} {token : WatchToken}
    (asleep : scene.session.run = some (run, .asleep token)) :
    scene.session.state = .awaitingChange ∧ scene.registry.watches.map (·.token) = [token] := by
  cases orderly with
  | absent absent _ _ => cases absent.symm.trans asleep
  | asleep present awaits lone =>
      cases present.symm.trans asleep
      exact ⟨awaits, lone⟩
  | ending present awake _ _ =>
      cases present.symm.trans asleep
      cases awake

theorem of_awake (orderly : scene.IsOrderly) {run : Run} {phase : RunPhase}
    (present : scene.session.run = some (run, phase)) (awake : phase.token? = none) :
    scene.session.state.hasRun = true ∧ scene.registry.watches = [] := by
  cases orderly with
  | absent absent _ _ => cases absent.symm.trans present
  | asleep asleep _ _ =>
      cases asleep.symm.trans present
      cases awake
  | ending _ _ going nothing => exact ⟨going, nothing⟩

theorem settle (orderly : scene.IsOrderly) : scene.settle.IsOrderly := by
  rw [Scene.settle]
  rcases found : scene.session.run with _ | ⟨run, phase⟩
  · exact orderly
  dsimp only
  cases phase with
  | asleep token =>
      rcases orderly.of_asleep found with ⟨awaits, lone⟩
      exact .asleep rfl awaits lone
  | refused cause =>
      rcases orderly.of_awake found rfl with ⟨going, nothing⟩
      cases (scene.consumer.work run.pending).2 with
      | nil => exact .absent rfl rfl nothing
      | cons task rest => exact .ending rfl rfl going nothing
  | closing outcome =>
      rcases orderly.of_awake found rfl with ⟨going, nothing⟩
      cases (scene.consumer.work run.pending).2 with
      | nil => exact .absent rfl rfl nothing
      | cons task rest => exact .ending rfl rfl going nothing

end IsOrderly

section

variable {scene : Scene}

theorem Awaits.isOrderly {after : Scene} {run : Run} (awaits : scene.Awaits run after)
    (nothing : scene.registry.watches = []) : after.IsOrderly := by
  induction awaits with
  | last scene run => exact .asleep rfl rfl (WatchRegistry.tokens_grant nothing _)
  | refused scene run cause replies => exact .ending rfl rfl rfl nothing
  | refusedAtOnce scene run cause replies => exact .ending rfl rfl rfl nothing
  | unchanged _ => exact .asleep rfl rfl (WatchRegistry.tokens_grant nothing _)
  | faulty _ _ =>
      exact .ending rfl rfl rfl (WatchRegistry.watches_unregister_grant nothing _)
  | grown _ _ induction =>
      exact induction (WatchRegistry.watches_unregister_grant nothing _)

theorem follow_isOrderly (nothing : scene.registry.watches = []) (run : Run)
    (entry : FileEntry) : (scene.follow run entry).IsOrderly := by
  cases entry with
  | directory => exact .ending rfl rfl rfl nothing
  | file contents =>
      rw [follow]
      dsimp only
      split
      · exact .ending rfl rfl rfl nothing
      · exact (await_awaits _ _ _).isOrderly nothing

theorem wake_isOrderly {token : WatchToken}
    (lone : scene.registry.watches.map (·.token) = [token]) (run : Run) :
    (scene.wake run token).IsOrderly := by
  have nothing := WatchRegistry.watches_unregister lone
  unfold wake
  dsimp only
  split
  · exact follow_isOrderly nothing _ _
  · exact (await_awaits _ _ _).isOrderly nothing
  · exact .ending rfl rfl rfl nothing

theorem settle_registry (scene : Scene) : scene.settle.registry = scene.registry := by
  rw [settle]
  split
  · rfl
  · dsimp only
    split <;> rfl

theorem close_isOrderly (nothing : scene.registry.watches = []) (run : Run) :
    (scene.close run).IsOrderly := by
  rw [close]
  exact IsOrderly.settle (.ending rfl rfl rfl nothing)

theorem Moves.isOrderly {after : Scene} (moves : scene.Moves after)
    (orderly : scene.IsOrderly) : after.IsOrderly := by
  cases moves with
  | rests run state registry _ => exact orderly.congr run state registry
  | fails absent => exact .absent absent rfl (orderly.watches_of_awake (by simp [absent]))
  | begins absent _ =>
      have nothing := orderly.watches_of_awake (by simp [absent])
      refine (follow_isOrderly ?_ _ _).settle
      exact nothing
  | wakes asleep => exact (wake_isOrderly (orderly.of_asleep asleep).2 _).settle
  | closes asleep =>
      exact close_isOrderly (WatchRegistry.watches_unregister (orderly.of_asleep asleep).2) _
  | stops closing => exact .ending closing rfl rfl (orderly.of_awake closing rfl).2
  | holds holdsBack => exact IsOrderly.settle (orderly.congr rfl rfl rfl)

theorem take_isOrderly (orderly : scene.IsOrderly) (step : SessionStep) :
    (scene.take step).2.IsOrderly :=
  (scene.take_moves step).isOrderly orderly

end

/-! ## Callbacks that are held -/

def holdsCallback (scene : Scene) : Bool :=
  match scene.session.run with
  | some (run, _) => scene.consumer.holdsBack && run.pending.head?.any scene.consumer.noticesTask
  | none => false

/-- A run that is not held by a callback has told all it has to tell, and sleeps. -/
def IsQuiet (scene : Scene) : Prop :=
  ∀ run phase, scene.session.run = some (run, phase) → scene.holdsCallback = false →
    run.pending = [] ∧ ∃ token, phase = .asleep token

theorem IsQuiet.of_absent {scene : Scene} (absent : scene.session.run = none) :
    scene.IsQuiet :=
  fun _ _ present => nomatch absent.symm.trans present

end Scene

theorem Consumer.work_held {consumer : Consumer} {tasks rest : List (Task Delivery)}
    {task : Task Delivery} (left : (consumer.work tasks).2 = task :: rest) :
    (consumer.work tasks).1 = consumer ∧ consumer.holdsBack = true ∧
      consumer.noticesTask task = true := by
  rw [work] at left ⊢
  split at left
  · next holdsBack =>
      have noticed := List.head?_dropWhile_not (!consumer.noticesTask ·) tasks
      dsimp only at left
      rw [left] at noticed
      rw [if_pos holdsBack]
      exact ⟨rfl, holdsBack, by simpa using noticed⟩
  · cases left

namespace Scene

theorem settle_isQuiet (scene : Scene) : scene.settle.IsQuiet := by
  rw [settle]
  rcases found : scene.session.run with _ | ⟨run, phase⟩
  · intro run phase present
    cases found.symm.trans present
  dsimp only
  cases left : (scene.consumer.work run.pending).2 with
  | nil =>
      cases phase with
      | asleep token =>
          intro _ _ present _
          cases present
          exact ⟨rfl, token, rfl⟩
      | _ => exact .of_absent rfl
  | cons task rest =>
      rcases Consumer.work_held left with ⟨idle, holdsBack, noticed⟩
      have held : ∀ phase, Scene.holdsCallback
          ({ scene with consumer := scene.consumer }.setRun
            scene.session.state { run with pending := task :: rest } phase) = true := by
        intro phase
        simp [holdsCallback, setRun, holdsBack, noticed]
      rw [idle]
      cases phase with
      | _ =>
          intro _ _ _ free
          cases (held _).symm.trans free

private theorem holdsCallback_congr {before after : Scene}
    (run : after.session.run = before.session.run)
    (consumer : after.consumer = before.consumer) :
    after.holdsCallback = before.holdsCallback := by
  rw [holdsCallback, holdsCallback, run, consumer]

theorem IsQuiet.congr {before after : Scene} (quiet : before.IsQuiet)
    (run : after.session.run = before.session.run)
    (consumer : after.consumer = before.consumer) : after.IsQuiet := by
  intro _ _ present
  rw [holdsCallback_congr run consumer]
  exact quiet _ _ (run ▸ present)

theorem Moves.isQuiet {scene after : Scene} (moves : scene.Moves after)
    (quiet : scene.IsQuiet) : after.IsQuiet := by
  cases moves with
  | rests run _ _ consumer => exact quiet.congr run consumer
  | fails absent => exact .of_absent absent
  | begins _ _ => exact settle_isQuiet _
  | wakes _ => exact settle_isQuiet _
  | closes _ => exact settle_isQuiet _
  | stops _ => exact quiet.congr rfl rfl
  | holds holdsBack => exact settle_isQuiet _

theorem take_isQuiet {scene : Scene} (quiet : scene.IsQuiet) (step : SessionStep) :
    (scene.take step).2.IsQuiet :=
  (scene.take_moves step).isQuiet quiet

/-! ## All that is seen of a session -/

/-- A session that has never been started, and has no watch registered yet. -/
structure IsNew (scene : Scene) : Prop where
  session : scene.session = .idle scene.session.settings
  registry : scene.registry = .empty

section

variable {scene : Scene}

namespace IsNew

theorem absent (isNew : scene.IsNew) : scene.session.run = none := by
  rw [isNew.session]
  rfl

theorem state (isNew : scene.IsNew) : scene.session.state = .idle := by
  rw [isNew.session]
  rfl

theorem isSettled (isNew : scene.IsNew) : scene.IsSettled :=
  .of_idle isNew.absent (by rw [isNew.state]; rfl)

theorem isOrderly (isNew : scene.IsNew) : scene.IsOrderly :=
  .absent isNew.absent (by rw [isNew.state]; rfl) (by rw [isNew.registry]; rfl)

theorem isQuiet (isNew : scene.IsNew) : scene.IsQuiet :=
  .of_absent isNew.absent

end IsNew

theorem watches_stop (orderly : scene.IsOrderly) : scene.stop.2.registry.watches = [] := by
  rw [stop]
  split
  · next ended =>
      apply orderly.watches_of_awake
      intro run token asleep
      rw [(orderly.of_asleep asleep).1] at ended
      cases ended
  split
  · next run token asleep =>
      rw [close, settle_registry]
      exact WatchRegistry.watches_unregister (orderly.of_asleep asleep).2
  · next refused => exact orderly.watches_of_awake (by simp [refused])
  · next closing => exact orderly.watches_of_awake (by simp [closing])
  · next absent => exact orderly.watches_of_awake (by simp [absent])

theorem join_registry (scene : Scene) : scene.join.2.registry = scene.registry := by
  rw [join]
  split <;> rfl

/-- Whatever steps are taken, a watch is registered exactly while the session awaits
a change, unless a callback that does not return keeps it from coming to rest. Even
then it has no second watch. Nothing is registered for a session that is given up. -/
theorem registered_iff_awaiting (isNew : scene.IsNew) (steps : List SessionStep) :
    let final := scene.takeAll steps
    final.registry.active ≤ 1 ∧
    (final.holdsCallback = false →
      final.registry.active = (if final.session.state = .awaitingChange then 1 else 0) ∧
        final.session.state ∈ [.idle, .awaitingChange, .stopped]) ∧
    (final.session.state = .stopping →
      final.holdsCallback = true ∧ final.registry.active = 0) ∧
    (final.session.state ∈ [.idle, .stopped] → final.session.offset = 0) ∧
    final.drop.registry.active = 0 := by
  intro final
  have orderly : final.IsOrderly := takeAll_induction take_isOrderly isNew.isOrderly steps
  have quiet : final.IsQuiet := takeAll_induction take_isQuiet isNew.isQuiet steps
  have dropped : final.drop.registry.active = 0 := by
    rw [drop, join_registry, WatchRegistry.active, watches_stop orderly, List.length_nil]
  simp only [List.mem_cons, List.not_mem_nil, or_false]
  cases orderly with
  | absent absent rests nothing =>
      have none : final.registry.active = 0 := by
        rw [WatchRegistry.active, nothing, List.length_nil]
      have offset : final.session.offset = 0 := by
        rw [Session.offset, absent]
      rcases SessionState.hasRun_eq_false_iff.mp rests with state | state <;>
        simp [none, offset, state, dropped]
  | asleep present awaits lone =>
      have one : final.registry.active = 1 := by
        rw [WatchRegistry.active, ← List.length_map, lone, List.length_singleton]
      simp [one, awaits, dropped]
  | ending present awake going nothing =>
      have none : final.registry.active = 0 := by
        rw [WatchRegistry.active, nothing, List.length_nil]
      have held : final.holdsCallback = true := by
        by_contra free
        rcases (quiet _ _ present (Bool.not_eq_true _ ▸ free)).2 with ⟨token, rfl⟩
        cases awake
      have running : ¬(final.session.state = .idle ∨ final.session.state = .stopped) := by
        rw [← SessionState.hasRun_eq_false_iff, going]
        simp
      simp [none, held, running, dropped]

/-- A run that is stopped while it awaits a change, a restart, and a second stop
while the beginning of the new run is still held back. -/
theorem registered_iff_awaiting_held :
    let steps : List SessionStep := [.start, .stop, .hold, .start, .stop]
    unstarted.IsNew ∧
    (unstarted.takeAll (steps.take 4)).registry.active ≤ 1 ∧
    (unstarted.takeAll steps).session.state = .stopping ∧
    (unstarted.takeAll steps).holdsCallback = true ∧
    (unstarted.takeAll steps).registry.active = 0 := by
  intro steps
  have isNew : unstarted.IsNew := ⟨rfl, rfl⟩
  have stopping : (unstarted.takeAll steps).session.state = .stopping := by
    decide +kernel
  have held := (registered_iff_awaiting isNew steps).2.2.1 stopping
  exact ⟨isNew, (registered_iff_awaiting isNew (steps.take 4)).1, stopping, held⟩

end

end Scene

end ReceiverLog
