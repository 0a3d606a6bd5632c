import ReceiverLog.Proofs.Session.Waiting

namespace ReceiverLog

/-! A session with something behind it: events heard before, tokens drawn before, and a
clock that goes differently. None of it decides anything. Every step of such a session
is the step without that past, with the past behind it. -/

/-- What lies before a scene. -/
structure Past where
  heard : List Event
  drawn : Nat
  now : Int

/-! ## Clocks -/

def Event.stamped (now : Int) : Event → Event
  | .location told => .location { told with timestamp := now }
  | .raw told => .raw { told with timestamp := now }
  | .satellites listed => .satellites listed
  | .status reached => .status reached

@[simp]
theorem Event.stamped_stamped (first second : Int) (event : Event) :
    (event.stamped first).stamped second = event.stamped second := by
  cases event <;> rfl

theorem Consumer.hears_stamped (consumer : Consumer) (now : Int) (event : Event) :
    consumer.hears (event.stamped now) = consumer.hears event := by
  cases event <;> rfl

namespace Task

def stamped (now : Int) (task : Task Delivery) : Task Delivery :=
  { task with body := task.body.map (·.stamped now) }

theorem discard_stamped (now : Int) (tasks : List (Task Delivery)) (last : Option Delivery) :
    discard (tasks.map (·.stamped now)) (last.map (·.map (·.stamped now))) =
      (discard tasks last).map (·.stamped now) := by
  rw [discard, discard, List.filter_map, List.map_append]
  cases last <;> rfl

theorem flatMap_body_stamped (now : Int) (tasks : List (Task Delivery)) :
    (tasks.map (·.stamped now)).flatMap (·.body) =
      (tasks.flatMap (·.body)).map (·.stamped now) := by
  rw [List.flatMap_map, List.map_flatMap]
  rfl

end Task

def Reading.stamped (now : Int) (reading : Reading) : Reading :=
  { reading with deliveries := reading.deliveries.map (·.map (·.stamped now)) }

namespace Reader

theorem delivery_stamped (now later : Int) (fix : Option Fix) (sentence : Sentence)
    (raw : String) :
    delivery later fix sentence raw = (delivery now fix sentence raw).map (·.stamped later) := by
  cases sentence <;> cases fix <;> rfl

theorem hear_stamped (now later : Int) (fix : Fix) (outcomes : List Outcome) :
    hear later fix outcomes =
      ((hear now fix outcomes).1, (hear now fix outcomes).2.1.map (·.map (·.stamped later)),
        (hear now fix outcomes).2.2) := by
  induction outcomes generalizing fix with
  | nil => rfl
  | cons outcome rest induction =>
      cases outcome with
      | malformed reason => rw [hear, induction, hear]
      | sentence sentence raw =>
          simp only [hear, induction, delivery_stamped now later, List.map_cons]

theorem consume_stamped (now later : Int) (reader : Reader) (buffer : List UInt8)
    (unread : FileContents) :
    reader.consume later buffer unread = (reader.consume now buffer unread).stamped later := by
  fun_induction consume now reader buffer unread with
  | case1 reader buffer unread passed some induction =>
      rw [consume, dif_pos some, induction]
  | case2 reader buffer unread passed none chunk exhausted =>
      rw [consume, dif_neg none, dif_pos exhausted]
      rfl
  | case3 reader buffer unread passed none chunk present filled fault fed =>
      rw [consume, dif_neg none, dif_neg present]
      dsimp only [filled, chunk] at fed ⊢
      rw [fed]
      rfl
  | case4 reader buffer unread passed none chunk present filled outcomes decoder fed fix
      deliveries malformed heard offset rest induction =>
      have heardLater := hear_stamped now later reader.fix outcomes
      rw [heard] at heardLater
      rw [consume, dif_neg none, dif_neg present]
      dsimp only [filled, chunk, offset] at fed induction ⊢
      rw [fed]
      dsimp only
      rw [heardLater]
      dsimp only
      rw [induction]
      simp only [Reading.stamped, List.map_append]
      rfl

theorem readOn_stamped (now later : Int) (reader : Reader) (contents : FileContents) :
    reader.readOn later contents = (reader.readOn now contents).stamped later :=
  consume_stamped now later reader emptyBuffer _

end Reader

/-! ## Tokens -/

def WatchToken.behind (drawn : Nat) (token : WatchToken) : WatchToken :=
  { id := drawn + token.id }

theorem WatchToken.behind_inj {drawn : Nat} {first second : WatchToken} :
    first.behind drawn = second.behind drawn ↔ first = second := by
  simp only [behind, WatchToken.mk.injEq, Nat.add_left_cancel_iff]
  cases first
  cases second
  simp

def Watch.behind (drawn : Nat) (watch : Watch) : Watch :=
  { watch with token := watch.token.behind drawn }

namespace WatchRegistry

def behind (drawn : Nat) (registry : WatchRegistry) : WatchRegistry where
  nextToken := drawn + registry.nextToken
  watches := registry.watches.map (Watch.behind drawn)

variable (drawn : Nat) (registry : WatchRegistry)

@[simp]
theorem active_behind : (registry.behind drawn).active = registry.active :=
  List.length_map _

theorem grant_behind (directory : String) :
    (registry.behind drawn).grant directory = (registry.grant directory).behind drawn := by
  rw [grant, behind, grant, behind, List.map_append]
  rfl

theorem unregister_behind (token : WatchToken) :
    (registry.behind drawn).unregister (token.behind drawn) =
      (registry.unregister token).behind drawn := by
  have same : (fun watch => watch.token != token.behind drawn) ∘ Watch.behind drawn =
      fun watch : Watch => watch.token != token := by
    funext watch
    have tokens : (watch.token.behind drawn == token.behind drawn) =
        (watch.token == token) := by
      rw [Bool.eq_iff_iff, beq_iff_eq, beq_iff_eq, WatchToken.behind_inj]
    exact congrArg (!·) tokens
  rw [unregister, behind, unregister, behind, List.filter_map, same]

end WatchRegistry

/-! ## Consumers and runs -/

namespace Consumer

variable (past : Past) (consumer : Consumer)

def behind : Consumer :=
  { consumer with heard := past.heard ++ consumer.heard.map (·.stamped past.now) }

theorem hears_behind :
    (consumer.behind past).hears ∘ (·.stamped past.now) = consumer.hears := by
  funext event
  exact consumer.hears_stamped past.now event

theorem noticesTask_behind (task : Task Delivery) :
    (consumer.behind past).noticesTask (task.stamped past.now) = consumer.noticesTask task := by
  rw [noticesTask, noticesTask, Task.stamped, List.any_map, hears_behind]

theorem hear_behind (events : List Event) :
    (consumer.behind past).hear (events.map (·.stamped past.now)) =
      (consumer.hear events).behind past := by
  rw [hear, List.filter_map, hears_behind, behind, hear, behind, List.map_append,
    List.append_assoc]

theorem work_behind (tasks : List (Task Delivery)) :
    (consumer.behind past).work (tasks.map (·.stamped past.now)) =
      ((consumer.work tasks).1.behind past,
        (consumer.work tasks).2.map (·.stamped past.now)) := by
  have noticed : (!(consumer.behind past).noticesTask ·) ∘ (·.stamped past.now) =
      (!consumer.noticesTask ·) := by
    funext task
    exact congrArg (!·) (consumer.noticesTask_behind past task)
  have holdsBack : (consumer.behind past).holdsBack = consumer.holdsBack := rfl
  rw [work, work, holdsBack]
  split
  · rw [List.dropWhile_map, noticed]
  · rw [Task.flatMap_body_stamped, hear_behind]
    rfl

end Consumer

def RunPhase.behind (drawn : Nat) : RunPhase → RunPhase
  | .asleep token => .asleep (token.behind drawn)
  | .refused cause => .refused cause
  | .closing outcome => .closing outcome

def Run.stamped (now : Int) (run : Run) : Run :=
  { run with pending := run.pending.map (·.stamped now) }

theorem Run.interrupted_stamped (now : Int) (run : Run) (last : Option Delivery) :
    (run.stamped now).pending.take 1 ++
        Task.discard ((run.stamped now).pending.drop 1) (last.map (·.map (·.stamped now))) =
      (run.pending.take 1 ++ Task.discard (run.pending.drop 1) last).map (·.stamped now) := by
  rw [List.map_append, ← Task.discard_stamped, List.map_take, List.map_drop]
  rfl

/-! ## Scenes -/

namespace Scene

def behind (past : Past) (scene : Scene) : Scene where
  session := { scene.session with
    run := scene.session.run.map fun (run, phase) =>
      (run.stamped past.now, phase.behind past.drawn) }
  files := scene.files
  working := scene.working
  registry := scene.registry.behind past.drawn
  replies := scene.replies
  consumer := scene.consumer.behind past
  now := past.now

variable (past : Past) (scene : Scene)

variable {scene} in
theorem behind_absent (absent : scene.session.run = none) :
    (scene.behind past).session.run = none := by
  rw [behind, absent]
  rfl

variable {scene} in
theorem behind_present {run : Run} {phase : RunPhase}
    (present : scene.session.run = some (run, phase)) :
    (scene.behind past).session.run = some (run.stamped past.now, phase.behind past.drawn) := by
  rw [behind, present]
  rfl

@[simp]
theorem behind_log : (scene.behind past).log = scene.log :=
  rfl

@[simp]
theorem behind_offset : (scene.behind past).session.offset = scene.session.offset := by
  rw [Session.offset, Session.offset, behind]
  dsimp only
  cases scene.session.run <;> rfl

theorem readOn_behind (run : Run) (contents : FileContents) :
    (run.stamped past.now).reader.readOn (scene.behind past).now contents =
      (run.reader.readOn scene.now contents).stamped past.now :=
  Reader.readOn_stamped scene.now past.now run.reader contents

theorem absorb_behind (run : Run) (reading : Reading) :
    (scene.behind past).absorb (run.stamped past.now) (reading.stamped past.now) =
      ((scene.absorb run reading).1.behind past,
        (scene.absorb run reading).2.stamped past.now) := by
  simp only [absorb, Run.stamped, Reading.stamped, List.map_append, List.map_map]
  rfl

theorem abort_behind (state : SessionState) (run : Run) (cause : Failure) :
    (scene.behind past).abort state (run.stamped past.now) cause =
      (scene.abort state run cause).behind past := by
  have interrupted := run.interrupted_stamped past.now none
  rw [Option.map_none] at interrupted
  rw [abort, interrupted]
  rfl

theorem landing_behind : (scene.behind past).landing = scene.landing := by
  unfold landing behind
  dsimp only

theorem watching_behind (landed : Option (List UInt8)) (replies : List WatchReply) :
    (scene.behind past).watching landed replies = (scene.watching landed replies).behind past := by
  have granted := WatchRegistry.grant_behind past.drawn scene.registry
    scene.session.settings.directory
  rw [watching, landing_behind]
  simp only [behind, watching, granted]

theorem unregister_behind (token : WatchToken) :
    { scene.behind past with
        registry := (scene.behind past).registry.unregister (token.behind past.drawn) } =
      ({ scene with registry := scene.registry.unregister token } : Scene).behind past := by
  simp only [behind, WatchRegistry.unregister_behind]

theorem withdrawn_behind (landed : Option (List UInt8)) (replies : List WatchReply) :
    (scene.behind past).withdrawn landed replies =
      (scene.withdrawn landed replies).behind past := by
  rw [withdrawn, watching_behind]
  exact unregister_behind past (scene.watching landed replies) scene.registry.upcoming

theorem readLanded_behind (run : Run) (landed : Option (List UInt8))
    (replies : List WatchReply) (contents : FileContents) :
    (scene.behind past).readLanded (run.stamped past.now) landed replies contents =
      ((scene.readLanded run landed replies contents).1.behind past,
        (scene.readLanded run landed replies contents).2.stamped past.now) := by
  rw [readLanded, withdrawn_behind, readOn_behind, absorb_behind, readLanded]

theorem await_behind (run : Run) (replies : List WatchReply) :
    (scene.behind past).await (run.stamped past.now) replies =
      (scene.await run replies).behind past := by
  induction replies generalizing scene run with
  | nil =>
      rw [await_nil, await_nil, watching_behind]
      rfl
  | cons reply replies induction =>
      cases reply with
      | refuse cause => rfl
      | refuseAtOnce cause =>
          exact abort_behind past { scene with registry := scene.registry.refuse, replies }
            .awaitingChange run cause
      | accept landed =>
          rw [await_accept, await_accept, watching_behind, behind_log]
          split
          · next contents present =>
              have offset : (run.stamped past.now).reader.offset = run.reader.offset := rfl
              rw [offset, readOn_behind, readLanded_behind]
              split
              · dsimp only [Reading.stamped]
                split
                · exact abort_behind past _ _ _ _
                · exact induction _ _
              · rfl
          · rfl

theorem follow_behind (run : Run) (entry : FileEntry) :
    (scene.behind past).follow (run.stamped past.now) entry =
      (scene.follow run entry).behind past := by
  cases entry with
  | directory => exact abort_behind past scene _ _ _
  | file contents =>
      rw [follow, follow, readOn_behind]
      dsimp only
      rw [absorb_behind]
      dsimp only [Reading.stamped]
      split
      · exact abort_behind past _ _ _ _
      · exact await_behind past _ _ _

theorem wake_behind (run : Run) (token : WatchToken) :
    (scene.behind past).wake (run.stamped past.now) (token.behind past.drawn) =
      (scene.wake run token).behind past := by
  unfold wake
  rw [unregister_behind]
  dsimp only
  rw [behind_log]
  split
  · exact follow_behind past _ _ _
  · exact await_behind past _ _ _
  · exact abort_behind past _ _ _ _

/-! ## Steps -/

theorem settle_behind : (scene.behind past).settle = scene.settle.behind past := by
  rw [settle, settle]
  rcases found : scene.session.run with _ | ⟨run, phase⟩
  · rw [behind_absent past found]
  · have worked : (scene.behind past).consumer.work (run.stamped past.now).pending =
        ((scene.consumer.work run.pending).1.behind past,
          (scene.consumer.work run.pending).2.map (·.stamped past.now)) :=
      scene.consumer.work_behind past run.pending
    rw [behind_present past found]
    dsimp only
    rw [worked]
    dsimp only
    cases (scene.consumer.work run.pending).2 <;> cases phase <;> rfl

theorem start_behind :
    (scene.behind past).start = (scene.start.1, scene.start.2.behind past) := by
  have state : (scene.behind past).session.state = scene.session.state := rfl
  have some : (scene.behind past).session.run.isSome = scene.session.run.isSome :=
    Option.isSome_map
  rw [start, start, state, some, behind_log]
  split
  · rfl
  split
  · rfl
  split
  · rfl
  · next entry _ =>
      have followed := follow_behind past scene.renewed beginRun entry
      have settled := settle_behind past (scene.renewed.follow beginRun entry)
      rw [← settled, ← followed]
      rfl

theorem close_behind (run : Run) :
    (scene.behind past).close (run.stamped past.now) = (scene.close run).behind past := by
  have interrupted := run.interrupted_stamped past.now (some [.status .finish])
  change _ ++ Task.discard _ (some [Event.status .finish]) = _ at interrupted
  rw [close, interrupted, close, ← settle_behind]
  rfl

theorem stop_behind :
    (scene.behind past).stop = (scene.stop.1, scene.stop.2.behind past) := by
  have state : (scene.behind past).session.state = scene.session.state := rfl
  rw [stop, stop, state]
  split
  · rfl
  rcases found : scene.session.run with _ | ⟨run, phase⟩
  · rw [behind_absent past found]
  · rw [behind_present past found]
    cases phase with
    | asleep token =>
        dsimp only [RunPhase.behind]
        rw [unregister_behind, close_behind]
    | refused cause => rfl
    | closing outcome => rfl

theorem join_behind :
    (scene.behind past).join = (scene.join.1, scene.join.2.behind past) := by
  have outcome : (scene.behind past).session.outcome = scene.session.outcome := rfl
  rw [join, join, outcome]
  rcases found : scene.session.run with _ | ⟨run, phase⟩
  · rw [behind_absent past found]
    cases scene.session.outcome <;> rfl
  · rw [behind_present past found]

theorem takeFileStep_behind (step : FileStep) :
    (scene.behind past).takeFileStep step =
      ((scene.takeFileStep step).1, (scene.takeFileStep step).2.behind past) := by
  have files : (scene.behind past).files = scene.files := rfl
  have working : (scene.behind past).working = scene.working := rfl
  rw [takeFileStep, takeFileStep, files, working]
  split <;> rfl

theorem notice_behind (change : Change) :
    (scene.behind past).notice change =
      ((scene.notice change).1, (scene.notice change).2.behind past) := by
  have settings : (scene.behind past).session.settings = scene.session.settings := rfl
  have active : (scene.behind past).registry.active = scene.registry.active :=
    WatchRegistry.active_behind past.drawn scene.registry
  rw [notice, notice, settings, active]
  rcases found : scene.session.run with _ | ⟨run, phase⟩
  · rw [behind_absent past found]
  · rw [behind_present past found]
    cases phase with
    | asleep token =>
        dsimp only [RunPhase.behind]
        split
        · rw [wake_behind, settle_behind]
        · rfl
    | refused cause => rfl
    | closing outcome => rfl

theorem setHolding_behind (holdsBack : Bool) :
    (scene.behind past).setHolding holdsBack = (scene.setHolding holdsBack).behind past := by
  rw [setHolding, setHolding, ← settle_behind]
  rfl

/-- Whatever a session has behind it, a step answers the same, and does the same. -/
theorem take_behind (step : SessionStep) :
    (scene.behind past).take step =
      ((scene.take step).1, (scene.take step).2.behind past) := by
  cases step with
  | start => exact scene.start_behind past
  | stop => exact scene.stop_behind past
  | join => exact scene.join_behind past
  | file step => exact scene.takeFileStep_behind past step
  | notice change => exact scene.notice_behind past change
  | reply reply => rfl
  | hold => exact congrArg (StepAnswer.done, ·) (scene.setHolding_behind past true)
  | release => exact congrArg (StepAnswer.done, ·) (scene.setHolding_behind past false)

end Scene

end ReceiverLog
