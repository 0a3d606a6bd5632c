import ReceiverLog.Proofs.Session.Offsets
import ReceiverLog.Proofs.Session.Restarting

namespace ReceiverLog

/-! Steps that have nothing to do: a start of a running session, a stop of one that does
not run, and notices by which there is nothing to read. Most of them leave everything as
it is. Only a notice that wakes the run has it register its watch anew, and all that is
left of this is a token that has been drawn. -/

/-! ## Pasts -/

def Past.unheard (now : Int) (drawn : Nat) : Past :=
  { heard := [], drawn, now }

namespace Task

theorem stamped_stamped (first second : Int) (task : Task Delivery) :
    (task.stamped first).stamped second = task.stamped second := by
  simp [stamped, Function.comp_def]

end Task

theorem Run.stamped_stamped (first second : Int) (run : Run) :
    (run.stamped first).stamped second = run.stamped second := by
  simp [stamped, Function.comp_def, Task.stamped_stamped]

theorem RunPhase.behind_behind (first second : Nat) (phase : RunPhase) :
    (phase.behind first).behind second = phase.behind (second + first) := by
  cases phase <;> simp [behind, WatchToken.behind, Nat.add_assoc]

theorem WatchRegistry.behind_behind (first second : Nat) (registry : WatchRegistry) :
    (registry.behind first).behind second = registry.behind (second + first) := by
  simp [behind, Watch.behind, WatchToken.behind, Nat.add_assoc, Function.comp_def]

namespace Scene

theorem behind_behind (first second : Past) (scene : Scene) :
    (scene.behind first).behind second = scene.behind {
      heard := second.heard ++ first.heard.map (·.stamped second.now)
      drawn := second.drawn + first.drawn
      now := second.now } := by
  simp [behind, Consumer.behind, WatchRegistry.behind_behind, Run.stamped_stamped,
    RunPhase.behind_behind, Function.comp_def]

theorem takeAll_behind (past : Past) (scene : Scene) (steps : List SessionStep) :
    (scene.behind past).takeAll steps = (scene.takeAll steps).behind past := by
  induction steps generalizing scene with
  | nil => rfl
  | cons step steps induction =>
      change ((scene.behind past).take step).2.takeAll steps = _
      rw [take_behind]
      exact induction _

end Scene

/-! ## What every step leaves -/

theorem Consumer.work_work (consumer : Consumer) (tasks : List (Task Delivery)) :
    (consumer.work tasks).1.work (consumer.work tasks).2 = consumer.work tasks := by
  cases holdsBack : consumer.holdsBack with
  | true =>
      have held : consumer.work tasks =
          (consumer, tasks.dropWhile (!consumer.noticesTask ·)) := by
        rw [work, if_pos holdsBack]
      rw [held, work, if_pos holdsBack, List.dropWhile_idempotent]
  | false =>
      have heard : consumer.work tasks = (consumer.hear (tasks.flatMap (·.body)), []) := by
        rw [work, holdsBack]
        rfl
      rw [heard]
      simp [work, hear, holdsBack]

namespace Scene

variable {scene : Scene}

def IsDelivered (scene : Scene) : Prop :=
  ∀ run phase, scene.session.run = some (run, phase) →
    scene.consumer.work run.pending = (scene.consumer, run.pending)

theorem IsDelivered.of_absent (absent : scene.session.run = none) : scene.IsDelivered :=
  fun _ _ present => nomatch absent.symm.trans present

theorem IsDelivered.congr {after : Scene} (delivered : scene.IsDelivered)
    (run : after.session.run = scene.session.run)
    (consumer : after.consumer = scene.consumer) : after.IsDelivered := by
  rw [IsDelivered]
  rw [run, consumer]
  exact delivered

theorem settle_isDelivered (scene : Scene) : scene.settle.IsDelivered := by
  rw [settle]
  rcases found : scene.session.run with _ | ⟨run, phase⟩
  · exact .of_absent found
  dsimp only
  split
  · exact .of_absent rfl
  · exact .of_absent rfl
  · intro _ _ present
    cases present
    exact scene.consumer.work_work run.pending

theorem Moves.isDelivered {after : Scene} (moves : scene.Moves after)
    (delivered : scene.IsDelivered) : after.IsDelivered := by
  cases moves with
  | rests run _ _ consumer => exact delivered.congr run consumer
  | fails absent => exact .of_absent absent
  | begins _ _ => exact settle_isDelivered _
  | wakes _ => exact settle_isDelivered _
  | closes _ => exact settle_isDelivered _
  | stops _ => exact delivered.congr rfl rfl
  | holds _ => exact settle_isDelivered _

/-- Nothing has been drawn from the registry since a sleeping run drew its watch. -/
def IsLatest (scene : Scene) : Prop :=
  ∀ run token, scene.session.run = some (run, .asleep token) → scene.registry = {
    nextToken := token.id + 1
    watches := [{ token, directory := scene.session.settings.directory }] }

theorem IsLatest.of_absent (absent : scene.session.run = none) : scene.IsLatest :=
  fun _ _ asleep => nomatch absent.symm.trans asleep

theorem IsLatest.of_awake {run : Run} {phase : RunPhase}
    (present : scene.session.run = some (run, phase)) (awake : phase.token? = none) :
    scene.IsLatest := by
  intro _ _ asleep
  cases present.symm.trans asleep
  cases awake

theorem IsLatest.congr {after : Scene} (latest : scene.IsLatest)
    (run : after.session.run = scene.session.run)
    (registry : after.registry = scene.registry)
    (settings : after.session.settings = scene.session.settings) : after.IsLatest := by
  rw [IsLatest]
  rw [run, registry, settings]
  exact latest

theorem IsLatest.settle (latest : scene.IsLatest) : scene.settle.IsLatest := by
  rw [Scene.settle]
  rcases found : scene.session.run with _ | ⟨run, phase⟩
  · exact latest
  dsimp only
  split
  · exact .of_absent rfl
  · exact .of_absent rfl
  · intro _ token asleep
    cases asleep
    exact latest run token found

theorem watching_isLatest (nothing : scene.registry.watches = [])
    (landed : Option (List UInt8)) (replies : List WatchReply) (run : Run) :
    ((scene.watching landed replies).setRun .awaitingChange run
      (.asleep scene.registry.upcoming)).IsLatest := by
  intro _ _ asleep
  cases asleep
  simp [watching, setRun, WatchRegistry.grant, WatchRegistry.upcoming, nothing]

theorem Awaits.isLatest {after : Scene} {run : Run} (awaits : scene.Awaits run after)
    (nothing : scene.registry.watches = []) : after.IsLatest := by
  induction awaits with
  | last scene run => exact watching_isLatest nothing _ _ _
  | refused scene run cause replies => exact .of_awake rfl rfl
  | refusedAtOnce scene run cause replies => exact .of_awake rfl rfl
  | unchanged _ => exact watching_isLatest nothing _ _ _
  | faulty _ _ => exact .of_awake rfl rfl
  | grown _ _ induction =>
      exact induction (WatchRegistry.watches_unregister_grant nothing _)

theorem follow_isLatest (nothing : scene.registry.watches = []) (run : Run)
    (entry : FileEntry) : (scene.follow run entry).IsLatest := by
  cases entry with
  | directory => exact .of_awake rfl rfl
  | file contents =>
      rw [follow]
      dsimp only
      split
      · exact .of_awake rfl rfl
      · exact (await_awaits _ _ _).isLatest nothing

theorem wake_isLatest {token : WatchToken}
    (lone : scene.registry.watches.map (·.token) = [token]) (run : Run) :
    (scene.wake run token).IsLatest := by
  have nothing := WatchRegistry.watches_unregister lone
  rw [wake_eq]
  split
  · exact follow_isLatest nothing _ _
  · exact (await_awaits _ _ _).isLatest nothing
  · exact .of_awake rfl rfl

theorem Moves.isLatest {after : Scene} (moves : scene.Moves after) (keeps : scene.Keeps after)
    (orderly : scene.IsOrderly) (latest : scene.IsLatest) : after.IsLatest := by
  cases moves with
  | rests run _ registry _ => exact latest.congr run registry keeps.settings
  | fails absent => exact .of_absent absent
  | begins absent _ =>
      have nothing : scene.renewed.registry.watches = [] :=
        orderly.watches_of_awake (by simp [absent])
      exact (follow_isLatest nothing _ _).settle
  | wakes asleep => exact (wake_isLatest (orderly.of_asleep asleep).2 _).settle
  | closes _ => exact IsLatest.settle (.of_awake rfl rfl)
  | stops closing => exact .of_awake closing rfl
  | holds _ => exact IsLatest.settle (latest.congr rfl rfl rfl)

/-- All events of a scene bear its time. -/
def IsTimely (scene : Scene) : Prop :=
  scene.behind (.unheard scene.now 0) = scene

theorem take_isTimely (timely : scene.IsTimely) (step : SessionStep) :
    (scene.take step).2.IsTimely := by
  have taken := scene.take_behind (.unheard scene.now 0) step
  rw [IsTimely] at timely ⊢
  rw [timely] at taken
  rw [(scene.take_keeps step).now]
  exact (congrArg Prod.snd taken).symm

structure IsStill (scene : Scene) : Prop where
  orderly : scene.IsOrderly
  delivered : scene.IsDelivered
  latest : scene.IsLatest
  timely : scene.IsTimely

theorem take_isStill (still : scene.IsStill) (step : SessionStep) :
    (scene.take step).2.IsStill where
  orderly := take_isOrderly still.orderly step
  delivered := (scene.take_moves step).isDelivered still.delivered
  latest := (scene.take_moves step).isLatest (scene.take_keeps step) still.orderly still.latest
  timely := take_isTimely still.timely step

/-! ## Waking up to nothing -/

/-- At the path of the log there is nothing, or a file of which no place is unread. -/
def HasNothingUnread (scene : Scene) : Prop :=
  scene.log = .error .notFound ∨
    ∃ contents, scene.log = .ok (.file contents) ∧ contents.size ≤ scene.session.offset

private theorem absorb_nothing (scene : Scene) (run : Run) :
    scene.absorb run { reader := run.reader, deliveries := [], malformed := 0, fault := none } =
      (scene, run) := by
  rw [absorb, Nat.add_zero, List.map_nil, List.append_nil]

section

variable {run : Run} {token : WatchToken}

theorem wake_of_nothing (asleep : scene.session.run = some (run, .asleep token))
    (resting : run.reader.decoder.IsResting) (queued : scene.replies = [])
    (nothing : scene.HasNothingUnread) :
    scene.wake run token = ((scene.woken token).watching none []).setRun .awaitingChange run
      (.asleep scene.registry.upcoming) := by
  have awaited : (scene.woken token).await run scene.replies =
      ((scene.woken token).watching none []).setRun .awaitingChange run
        (.asleep scene.registry.upcoming) := by
    rw [queued, await_nil]
    rfl
  rw [wake_eq]
  rcases nothing with missing | ⟨contents, present, short⟩
  · rw [missing]
    exact awaited
  · rw [offset_eq asleep] at short
    have passed : contents.toList.drop run.reader.offset = [] := by
      apply List.drop_eq_nil_of_le
      rw [FileContents.length_toList]
      exact short
    rw [present]
    dsimp only [follow]
    rw [Reader.readOn_eq_atOnce resting, passed, Reader.atOnce_nil resting, absorb_nothing]
    exact awaited

theorem IsDelivered.settle_eq (delivered : scene.IsDelivered)
    (asleep : scene.session.run = some (run, .asleep token)) : scene.settle = scene := by
  rw [settle, asleep]
  dsimp only
  rw [delivered run _ asleep, setRun, ← asleep]

theorem settle_wake_of_nothing (still : scene.IsStill)
    (asleep : scene.session.run = some (run, .asleep token))
    (resting : run.reader.decoder.IsResting) (queued : scene.replies = [])
    (nothing : scene.HasNothingUnread) :
    (scene.wake run token).settle =
      scene.behind (.unheard scene.now 1) := by
  have awaits := (still.orderly.of_asleep asleep).1
  have latest := still.latest run token asleep
  have delivered := still.delivered run _ asleep
  have timelyRun : run.stamped scene.now = run := by
    have same := congrArg (·.session.run) still.timely
    rw [behind_present _ asleep, asleep, Option.some.injEq, Prod.mk.injEq] at same
    exact same.1
  have timelyConsumer : scene.consumer.behind (.unheard scene.now 0) = scene.consumer :=
    congrArg (·.consumer) still.timely
  have registry : (scene.registry.unregister token).grant scene.session.settings.directory =
      scene.registry.behind 1 := by
    rw [latest]
    simp [WatchRegistry.unregister, WatchRegistry.grant, WatchRegistry.upcoming,
      WatchRegistry.behind, Watch.behind, WatchToken.behind, Nat.add_comm 1]
  have upcoming : RunPhase.asleep scene.registry.upcoming = (RunPhase.asleep token).behind 1 := by
    rw [latest]
    simp [WatchRegistry.upcoming, RunPhase.behind, WatchToken.behind, Nat.add_comm 1]
  have waiting : (((scene.woken token).watching none []).setRun .awaitingChange run
      (.asleep scene.registry.upcoming)).IsDelivered := by
    intro _ _ present
    cases present
    exact delivered
  rw [wake_of_nothing asleep resting queued nothing, waiting.settle_eq rfl, upcoming, behind,
    Scene.mk.injEq]
  refine ⟨?_, rfl, rfl, registry, queued.symm, timelyConsumer.symm, rfl⟩
  rw [asleep, Option.map_some]
  dsimp only [Past.unheard]
  rw [timelyRun, setRun, ← awaits]
  rfl

end

/-! ## Steps that have nothing to do -/

inductive IsRedundant (scene : Scene) : SessionStep → Prop
  | start : scene.session.state.isRunning = true → IsRedundant scene .start
  | stop : scene.session.state.isRunning = false → IsRedundant scene .stop
  | elsewhere {change : Change} : change.file ≠ scene.session.settings.file →
      IsRedundant scene (.notice change)
  | withoutContents {change : Change} : change.kind ∈ [.created, .removed, .other] →
      IsRedundant scene (.notice change)
  | nothingUnread (change : Change) : scene.HasNothingUnread →
      IsRedundant scene (.notice change)

def isWakeUp (scene : Scene) : SessionStep → Bool
  | .notice change => scene.isAsleep && change.resumes scene.session.settings.file
  | _ => false

theorem isRedundant_behind_iff {past : Past} {step : SessionStep} :
    (scene.behind past).IsRedundant step ↔ scene.IsRedundant step := by
  have nothing : (scene.behind past).HasNothingUnread ↔ scene.HasNothingUnread := by
    rw [HasNothingUnread, behind_log, behind_offset, HasNothingUnread]
  constructor
  · intro redundant
    cases redundant with
    | start running => exact .start running
    | stop ended => exact .stop ended
    | elsewhere different => exact .elsewhere different
    | withoutContents kind => exact .withoutContents kind
    | nothingUnread change unread => exact .nothingUnread change (nothing.mp unread)
  · intro redundant
    cases redundant with
    | start running => exact .start running
    | stop ended => exact .stop ended
    | elsewhere different => exact .elsewhere different
    | withoutContents kind => exact .withoutContents kind
    | nothingUnread change unread => exact .nothingUnread change (nothing.mpr unread)

private theorem resumes_of_withoutContents {change : Change} {tracked : String}
    (kind : change.kind ∈ [.created, .removed, .other]) : change.resumes tracked = false := by
  simp only [List.mem_cons, List.not_mem_nil, or_false] at kind
  rcases kind with equal | equal | equal <;>
    simp [Change.resumes, equal, ChangeKind.bringsContents]

/-- A step that has nothing to do leaves a scene as it is, but for the token that a
wake-up draws. -/
theorem take_of_isRedundant (still : scene.IsStill) {passes : List Pass}
    (accounts : scene.Accounts passes) (queued : scene.replies = []) {step : SessionStep}
    (redundant : scene.IsRedundant step) :
    (scene.take step).2 =
      scene.behind (.unheard scene.now (if scene.isWakeUp step then 1 else 0)) := by
  have unmoved (asleep : scene.isWakeUp step = false) (same : (scene.take step).2 = scene) :
      (scene.take step).2 =
        scene.behind (.unheard scene.now (if scene.isWakeUp step then 1 else 0)) := by
    rw [same, asleep]
    exact still.timely.symm
  have asleepNotice {change : Change} (asleep : scene.isWakeUp (.notice change) = false) :
      (scene.take (.notice change)).2 = scene := by
    rw [isWakeUp] at asleep
    exact notice_eq_self (by simp [asleep])
  cases redundant with
  | start running =>
      refine unmoved rfl ?_
      rw [take, start, if_pos running]
  | stop ended =>
      refine unmoved rfl ?_
      rw [take, stop, ended]
      rfl
  | @elsewhere change different =>
      have asleep : scene.isWakeUp (.notice change) = false := by
        simp [isWakeUp, Change.resumes, different]
      exact unmoved asleep (asleepNotice asleep)
  | @withoutContents change kind =>
      have asleep : scene.isWakeUp (.notice change) = false := by
        simp [isWakeUp, resumes_of_withoutContents kind]
      exact unmoved asleep (asleepNotice asleep)
  | nothingUnread change nothing =>
      cases woken : scene.isWakeUp (.notice change) with
      | false => exact woken ▸ unmoved woken (asleepNotice woken)
      | true =>
          rw [isWakeUp, Bool.and_eq_true] at woken
          rcases isAsleep_iff.mp woken.1 with ⟨run, token, asleep⟩
          rw [take, notice_wakes woken.2 asleep]
          exact settle_wake_of_nothing still asleep (accounts run _ asleep).isResting queued nothing

theorem takeAll_of_isRedundant (still : scene.IsStill) {passes : List Pass}
    (accounts : scene.Accounts passes) (queued : scene.replies = []) {steps : List SessionStep}
    (redundant : ∀ step ∈ steps, scene.IsRedundant step) :
    scene.takeAll steps = scene.behind (.unheard scene.now (steps.countP scene.isWakeUp)) := by
  induction steps with
  | nil => exact still.timely.symm
  | cons step steps induction =>
      rw [List.forall_mem_cons] at redundant
      change (scene.take step).2.takeAll steps = _
      rw [take_of_isRedundant still accounts queued redundant.1, takeAll_behind,
        induction redundant.2, behind_behind, List.countP_cons, Nat.add_comm]
      rfl

/-! ## What is seen of them -/

theorem isWakeUp_behind (past : Past) (scene : Scene) :
    (scene.behind past).isWakeUp = scene.isWakeUp := by
  have asleep : (scene.behind past).isAsleep = scene.isAsleep := by
    rw [isAsleep, isAsleep, fate, fate]
    rcases found : scene.session.run with _ | ⟨run, phase⟩
    · rw [behind_absent past found]
    · rw [behind_present past found]
      cases phase <;> rfl
  funext step
  cases step with
  | notice change => rw [isWakeUp, isWakeUp, asleep]; rfl
  | _ => rfl

namespace IsNew

theorem eq_behind (isNew : scene.IsNew) :
    scene = (scene.brandNew scene.now).behind scene.past := by
  have registry : scene.registry = WatchRegistry.empty.behind scene.registry.nextToken := by
    rw [isNew.registry]
    rfl
  have consumer := scene.brandNew_consumer scene.now
  have session := isNew.session
  cases scene
  rw [behind, Scene.mk.injEq]
  exact ⟨session, rfl, rfl, registry, rfl, consumer, rfl⟩

theorem brandNew (scene : Scene) (now : Int) : (scene.brandNew now).IsNew :=
  ⟨rfl, rfl⟩

theorem brandNew_isStill (scene : Scene) (now : Int) : (scene.brandNew now).IsStill where
  orderly := (brandNew scene now).isOrderly
  delivered := .of_absent rfl
  latest := .of_absent rfl
  timely := rfl

end IsNew

/-- Steps that have nothing to do are not seen. They change nothing of a session, of its
run, and of what has been heard, and every step behind them shows what it would show
without them. Each wake-up among them has drawn a token, for it has withdrawn a watch and
registered another. -/
theorem observations_of_isRedundant (isNew : scene.IsNew) (history extra : List SessionStep)
    (queued : (scene.takeAll history).replies = [])
    (redundant : ∀ step ∈ extra, (scene.takeAll history).IsRedundant step) :
    let reached := scene.takeAll history
    let after := reached.takeAll extra
    after.session.state = reached.session.state ∧
    after.session.offset = reached.session.offset ∧
    after.session.malformed = reached.session.malformed ∧
    after.session.run.map (·.1) = reached.session.run.map (·.1) ∧
    after.registry.active = reached.registry.active ∧
    after.registry.nextToken = reached.registry.nextToken + extra.countP reached.isWakeUp ∧
    after.consumer.heard = reached.consumer.heard ∧
    ∀ later, after.observations later = reached.observations later ∧
      (after.takeAll later).consumer.heard = (reached.takeAll later).consumer.heard := by
  intro reached after
  -- The same without what had been heard before, so that all events are of one time.
  let new := scene.brandNew scene.now
  let own := new.takeAll history
  have now : own.now = scene.now := (new.takeAll_keeps history).now
  have ownReached : reached = own.behind scene.past := by
    rw [← takeAll_behind, ← isNew.eq_behind]
  have still : own.IsStill :=
    takeAll_induction take_isStill (IsNew.brandNew_isStill scene scene.now) history
  have accounts : own.Accounts (new.journal [] history) :=
    takeAll_accounts (IsNew.brandNew scene scene.now).isSettled (.of_absent rfl []) history
  have ownQueued : own.replies = [] := by
    rw [← queued]
    exact (congrArg (·.replies) ownReached).symm
  have ownRedundant : ∀ step ∈ extra, own.IsRedundant step := by
    intro step member
    have reachedRedundant := redundant step member
    rw [show scene.takeAll history = _ from ownReached] at reachedRedundant
    exact isRedundant_behind_iff.mp reachedRedundant
  let past : Past := { scene.past with
    drawn := scene.past.drawn + extra.countP reached.isWakeUp }
  have ownAfter : after = own.behind past := by
    have taken := takeAll_of_isRedundant still accounts ownQueued ownRedundant
    have wakeUps : reached.isWakeUp = own.isWakeUp := by
      rw [ownReached, isWakeUp_behind]
    simp only [after, past, wakeUps]
    rw [ownReached, takeAll_behind, taken, behind_behind]
    simp [Past.unheard]
  have drawn : after.registry.nextToken =
      reached.registry.nextToken + extra.countP reached.isWakeUp := by
    have afterDrawn : after.registry.nextToken = past.drawn + own.registry.nextToken :=
      congrArg (·.registry.nextToken) ownAfter
    have reachedDrawn : reached.registry.nextToken =
        scene.past.drawn + own.registry.nextToken :=
      congrArg (·.registry.nextToken) ownReached
    rw [afterDrawn, reachedDrawn, Nat.add_right_comm]
  refine ⟨?_, ?_, ?_, ?_, ?_, drawn, ?_, ?_⟩
  · rw [ownAfter, ownReached]
    rfl
  · rw [ownAfter, ownReached, behind_offset, behind_offset]
  · rw [ownAfter, ownReached]
    rfl
  · rw [ownAfter, ownReached, behind, behind, Option.map_map, Option.map_map]
    rfl
  · rw [ownAfter, ownReached, behind, behind, WatchRegistry.active_behind,
      WatchRegistry.active_behind]
  · rw [ownAfter, ownReached]
    rfl
  · intro later
    rw [ownAfter, ownReached, observations_behind, observations_behind, takeAll_behind,
      takeAll_behind]
    exact ⟨rfl, rfl⟩

/-- A sleeping run with a fragment carried over and an event held back, whose log is cut
short: it wakes up twice, and sleeps on. -/
theorem observations_of_isRedundant_cut :
    let path := unstarted.session.settings.path
    let history : List SessionStep := [
      .file (.append path [startMarker, 66, star, 52, 50, startMarker, 71]), .hold, .start,
      .file (.truncate path 3)]
    let tell (kind : ChangeKind) (file : String) : SessionStep := .notice { kind, file }
    let extra : List SessionStep := [
      .start, tell .modified "other.nmea", tell .modified "gps.nmea", tell .removed "gps.nmea",
      tell .movedIn "gps.nmea"]
    let reached := unstarted.takeAll history
    let after := reached.takeAll extra
    reached.session.offset = 7 ∧ reached.session.run.isSome ∧
      after.registry.nextToken = reached.registry.nextToken + 2 ∧
      ∀ later, after.observations later = reached.observations later := by
  intro path history tell extra reached after
  have isNew : unstarted.IsNew := ⟨rfl, rfl⟩
  have queued : (unstarted.takeAll history).replies = [] := by
    decide +kernel
  have unread : (unstarted.takeAll history).HasNothingUnread := by
    refine .inr
      ⟨(FileContents.ofList [startMarker, 66, star, 52, 50, startMarker, 71]).resize 3, ?_, ?_⟩
    · decide +kernel
    · decide +kernel
  have running : (unstarted.takeAll history).session.state.isRunning = true := by
    decide +kernel
  have different : "other.nmea" ≠ (unstarted.takeAll history).session.settings.file := by
    decide +kernel
  have redundant : ∀ step ∈ extra, (unstarted.takeAll history).IsRedundant step := by
    simp only [extra, tell, List.forall_mem_cons]
    refine ⟨.start running, .elsewhere different, .nothingUnread _ unread,
      .withoutContents (by decide), .nothingUnread _ unread, nofun⟩
  have wakeUps : extra.countP reached.isWakeUp = 2 := by
    decide +kernel
  have unseen := observations_of_isRedundant isNew history extra queued redundant
  rcases unseen with ⟨_, _, _, _, _, drawn, _, later⟩
  refine ⟨by decide +kernel, by decide +kernel, ?_, fun steps => (later steps).1⟩
  rw [drawn, wakeUps]

end Scene

end ReceiverLog
