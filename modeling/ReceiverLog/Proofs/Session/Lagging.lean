import Mathlib.Data.List.Infix
import ReceiverLog.Proofs.Session.Bracketing
import ReceiverLog.Proofs.Session.Registrations

namespace ReceiverLog

/-! A consumer that lags behind. A session reads on whether or not its consumer takes
what is delivered: a slow consumer only leaves tasks before the run, and hears them
later, in their order. -/

namespace Consumer

theorem heard_hear (consumer : Consumer) (events : List Event) :
    (consumer.hear events).heard = consumer.heard ++ events.filter consumer.hears := by
  rfl

theorem hear_hear (consumer : Consumer) (first second : List Event) :
    (consumer.hear first).hear second = consumer.hear (first ++ second) := by
  have same : (consumer.hear first).hears = consumer.hears := hears_eq rfl
  rw [hear, same, hear, hear, List.filter_append, List.append_assoc]

structure LagsBehind (slow : Consumer) (tasks : List (Task Delivery)) (prompt : Consumer) :
    Prop where
  released : prompt.holdsBack = false
  rawOnly : slow.rawOnly = prompt.rawOnly
  heard : (slow.hear (tasks.flatMap (·.body))).heard = prompt.heard

namespace LagsBehind

variable {slow prompt : Consumer} {tasks : List (Task Delivery)}

theorem gated (lags : slow.LagsBehind tasks prompt) (holdsBack : Bool) :
    LagsBehind { slow with holdsBack } tasks prompt where
  released := lags.released
  rawOnly := lags.rawOnly
  heard := by
    have same : hears { slow with holdsBack } = slow.hears := hears_eq rfl
    rw [← lags.heard, heard_hear, heard_hear, same]

theorem work (lags : slow.LagsBehind tasks prompt) (more : List (Task Delivery)) :
    (slow.work (tasks ++ more)).1.LagsBehind (slow.work (tasks ++ more)).2
      (prompt.work more).1 := by
  have worked : prompt.work more = (prompt.hear (more.flatMap (·.body)), []) := by
    rw [Consumer.work]
    rw [lags.released]
    rfl
  rcases slow.exists_work_eq (tasks ++ more) with ⟨completed, split, heard⟩
  rw [worked, heard]
  refine ⟨lags.released, lags.rawOnly, ?_⟩
  have same : (slow.hear (tasks.flatMap (·.body))).hears = prompt.hears := hears_eq lags.rawOnly
  rw [hear_hear, ← List.flatMap_append, split, List.flatMap_append, ← hear_hear, heard_hear,
    lags.heard, same]
  rfl

end LagsBehind

end Consumer

def Run.lagging (tasks : List (Task Delivery)) (run : Run) : Run :=
  { run with pending := tasks ++ run.pending }

def SessionStep.isGate : SessionStep → Bool
  | .hold => true
  | .release => true
  | _ => false

namespace Scene

def lagging (slow : Consumer) (tasks : List (Task Delivery)) (scene : Scene) : Scene :=
  { scene with
    session := { scene.session with
      run := scene.session.run.map fun (run, phase) => (run.lagging tasks, phase) }
    consumer := slow }

/-! ## Reading and waiting -/

section

variable (slow : Consumer) (tasks : List (Task Delivery)) {scene : Scene} {run : Run}

theorem absorb_lagging (scene : Scene) (run : Run) (reading : Reading) :
    (scene.lagging slow tasks).absorb (run.lagging tasks) reading =
      ((scene.absorb run reading).1.lagging slow tasks,
        (scene.absorb run reading).2.lagging tasks) := by
  simp only [absorb, Run.lagging, List.append_assoc]
  rfl

theorem landing_lagging (scene : Scene) :
    (scene.lagging slow tasks).landing = scene.landing := by
  unfold landing lagging
  dsimp only

theorem watching_lagging (scene : Scene) (landed : Option (List UInt8))
    (replies : List WatchReply) :
    (scene.lagging slow tasks).watching landed replies =
      (scene.watching landed replies).lagging slow tasks := by
  rw [watching, landing_lagging]
  rfl

theorem withdrawn_lagging (scene : Scene) (landed : Option (List UInt8))
    (replies : List WatchReply) :
    (scene.lagging slow tasks).withdrawn landed replies =
      (scene.withdrawn landed replies).lagging slow tasks := by
  rw [withdrawn, watching_lagging]
  rfl

theorem readLanded_lagging (scene : Scene) (run : Run) (landed : Option (List UInt8))
    (replies : List WatchReply) (contents : FileContents) :
    (scene.lagging slow tasks).readLanded (run.lagging tasks) landed replies contents =
      ((scene.readLanded run landed replies contents).1.lagging slow tasks,
        (scene.readLanded run landed replies contents).2.lagging tasks) := by
  have reader : (run.lagging tasks).reader = run.reader := rfl
  have now : (scene.lagging slow tasks).now = scene.now := rfl
  rw [readLanded, withdrawn_lagging, reader, now, absorb_lagging, readLanded]

theorem await_lagging {replies : List WatchReply}
    (asleep : (scene.await run replies).isAsleep = true) :
    (scene.lagging slow tasks).await (run.lagging tasks) replies =
      (scene.await run replies).lagging slow tasks := by
  induction replies generalizing scene run with
  | nil => rfl
  | cons reply replies induction =>
      cases reply with
      | refuse cause => cases asleep
      | refuseAtOnce cause => cases asleep
      | accept landed =>
          have log : ((scene.watching landed replies).lagging slow tasks).log =
              (scene.watching landed replies).log := rfl
          have reader : (run.lagging tasks).reader = run.reader := rfl
          have now : (scene.lagging slow tasks).now = scene.now := rfl
          rw [await_accept] at asleep ⊢
          rw [await_accept, watching_lagging, log, reader, now]
          generalize (scene.watching landed replies).log = found at asleep ⊢
          rcases found with error | contents | _
          · rfl
          · dsimp only at asleep ⊢
            rw [readLanded_lagging]
            split at asleep
            · next grown =>
                rw [if_pos grown, if_pos grown]
                generalize (run.reader.readOn scene.now contents).fault = fault at asleep ⊢
                cases fault with
                | some fault => cases asleep
                | none => exact induction asleep
            · next short =>
                rw [if_neg short, if_neg short]
                rfl
          · rfl

theorem follow_lagging {entry : FileEntry} (asleep : (scene.follow run entry).isAsleep = true) :
    (scene.lagging slow tasks).follow (run.lagging tasks) entry =
      (scene.follow run entry).lagging slow tasks := by
  have reader : (run.lagging tasks).reader = run.reader := rfl
  have now : (scene.lagging slow tasks).now = scene.now := rfl
  cases entry with
  | directory => cases asleep
  | file contents =>
      rw [follow] at asleep ⊢
      rw [follow, reader, now]
      dsimp only at asleep ⊢
      rw [absorb_lagging]
      generalize (run.reader.readOn scene.now contents).fault = fault at asleep ⊢
      cases fault with
      | some fault => cases asleep
      | none => exact await_lagging slow tasks asleep

theorem wake_lagging {token : WatchToken} (asleep : (scene.wake run token).isAsleep = true) :
    (scene.lagging slow tasks).wake (run.lagging tasks) token =
      (scene.wake run token).lagging slow tasks := by
  have log : (scene.lagging slow tasks).log = scene.log := rfl
  rw [wake_eq] at asleep ⊢
  rw [wake_eq, log]
  generalize scene.log = found at asleep ⊢
  rcases found with error | entry
  · cases error with
    | notFound => exact await_lagging slow tasks asleep
    | _ => cases asleep
  · exact follow_lagging slow tasks asleep

end

/-! ## Steps -/

/-- A scene differs from another only by a consumer that lags behind, and by the tasks
that are still before that one. -/
inductive LagsBehind : Scene → Scene → Prop
  | intro {prompt : Scene} {slow : Consumer} {tasks : List (Task Delivery)} :
      slow.LagsBehind tasks prompt.consumer →
      (slow.holdsBack = false → tasks = []) →
      (prompt.session.run = none → tasks = []) →
      LagsBehind (prompt.lagging slow tasks) prompt

section

variable {slow : Consumer} {tasks : List (Task Delivery)} {prompt : Scene}

theorem lagging_absent (absent : prompt.session.run = none) :
    (prompt.lagging slow tasks).session.run = none := by
  rw [lagging, absent]
  rfl

theorem lagging_present {run : Run} {phase : RunPhase}
    (present : prompt.session.run = some (run, phase)) :
    (prompt.lagging slow tasks).session.run = some (run.lagging tasks, phase) := by
  rw [lagging, present]
  rfl

theorem settle_lagsBehind (lags : slow.LagsBehind tasks prompt.consumer)
    (asleep : prompt.isAsleep = true) :
    (prompt.lagging slow tasks).settle.LagsBehind prompt.settle := by
  rcases isAsleep_iff.mp asleep with ⟨run, token, present⟩
  have worked := lags.work run.pending
  have promptWorked : (prompt.consumer.work run.pending).2 = [] :=
    Consumer.work_released lags.released _
  have slowReleased : (slow.work (tasks ++ run.pending)).1.holdsBack = false →
      (slow.work (tasks ++ run.pending)).2 = [] := by
    rw [Consumer.work_holdsBack]
    exact fun released => Consumer.work_released released _
  have settled : (prompt.lagging slow tasks).settle =
      prompt.settle.lagging (slow.work (tasks ++ run.pending)).1
        (slow.work (tasks ++ run.pending)).2 := by
    rw [settle, settle, lagging_present present, present]
    dsimp only
    rw [promptWorked]
    simp only [setRun, lagging, Run.lagging, Option.map_some, List.append_nil]
  rw [settled]
  refine .intro ?_ slowReleased ?_
  · rw [settle, present]
    dsimp only
    rw [promptWorked]
    exact worked
  · rw [settle, present]
    dsimp only
    rw [promptWorked]
    intro absent
    cases absent

/-! A run that comes to an end is seen to have stopped, unless its consumer holds
back. -/

theorem Awaits.isSome {scene after : Scene} {run : Run} (awaits : scene.Awaits run after) :
    after.session.run.isSome := by
  induction awaits with
  | grown _ _ induction => exact induction
  | _ => rfl

theorem follow_isSome (scene : Scene) (run : Run) (entry : FileEntry) :
    (scene.follow run entry).session.run.isSome := by
  cases entry with
  | directory => rfl
  | file contents =>
      rw [follow]
      dsimp only
      split
      · rfl
      · exact (await_awaits _ _ _).isSome

theorem wake_isSome (scene : Scene) (run : Run) (token : WatchToken) :
    (scene.wake run token).session.run.isSome := by
  rw [wake_eq]
  split
  · exact follow_isSome _ _ _
  · exact (await_awaits _ _ _).isSome
  · rfl

theorem isAsleep_of_settle {scene : Scene} (present : scene.session.run.isSome)
    (released : scene.consumer.holdsBack = false)
    (goesOn : scene.settle.session.state ≠ .stopped) : scene.isAsleep = true := by
  rcases Option.isSome_iff_exists.mp present with ⟨⟨run, phase⟩, found⟩
  cases phase with
  | asleep token => exact isAsleep_iff.mpr ⟨run, token, found⟩
  | _ =>
      apply absurd _ goesOn
      rw [settle, found]
      dsimp only
      rw [Consumer.work_released released]
      rfl

namespace LagsBehind

theorem refl (absent : prompt.session.run = none) (released : prompt.consumer.holdsBack = false) :
    prompt.LagsBehind prompt := by
  have same : prompt.lagging prompt.consumer [] = prompt := by
    rw [lagging, absent, Option.map_none, ← absent]
  have lags : prompt.consumer.LagsBehind [] prompt.consumer :=
    ⟨released, rfl, by simp [Consumer.hear]⟩
  have next : (prompt.lagging prompt.consumer []).LagsBehind prompt :=
    .intro lags (fun _ => rfl) (fun _ => rfl)
  rwa [same] at next

theorem unchanged {scene : Scene} (lags : scene.LagsBehind prompt) :
    scene.session.state = prompt.session.state ∧
      scene.session.offset = prompt.session.offset ∧
      scene.session.malformed = prompt.session.malformed ∧
      scene.registry.active = prompt.registry.active := by
  cases lags with
  | @intro _ slow tasks _ _ _ =>
      refine ⟨rfl, ?_, rfl, rfl⟩
      rw [Session.offset, Session.offset, lagging]
      cases prompt.session.run <;> rfl

theorem heard {scene : Scene} (lags : scene.LagsBehind prompt)
    (released : scene.consumer.holdsBack = false) :
    scene.consumer.heard = prompt.consumer.heard := by
  cases lags with
  | @intro _ slow tasks lags caughtUp _ =>
      have heard := lags.heard
      rw [caughtUp released, List.flatMap_nil, Consumer.heard_hear, List.filter_nil,
        List.append_nil] at heard
      exact heard

end LagsBehind

private theorem settle_eq_self (settled : prompt.IsSettled)
    (released : prompt.consumer.holdsBack = false) : prompt.settle = prompt := by
  rw [settle]
  rcases found : prompt.session.run with _ | ⟨run, phase⟩
  · rfl
  rcases settled.released released run phase found with ⟨done, token, rfl⟩
  have heard : prompt.consumer.work run.pending = (prompt.consumer, run.pending) := by
    rw [done, Consumer.work]
    rw [released]
    simp [Consumer.hear]
  dsimp only
  rw [heard]
  have same : prompt.setRun prompt.session.state run (.asleep token) = prompt := by
    rw [setRun, ← found]
  exact same

theorem setHolding_lagsBehind {scene : Scene} (lags : scene.LagsBehind prompt)
    (settled : prompt.IsSettled) (holdsBack : Bool) :
    (scene.setHolding holdsBack).LagsBehind prompt := by
  cases lags with
  | @intro _ slow tasks lags caughtUp nothing =>
      have gated := lags.gated holdsBack
      rcases found : prompt.session.run with _ | ⟨run, phase⟩
      · have nothing := nothing found
        subst nothing
        have still : (prompt.lagging slow []).setHolding holdsBack =
            prompt.lagging { slow with holdsBack } [] := by
          rw [setHolding, settle, lagging_absent found]
          rfl
        rw [still]
        exact .intro gated (fun _ => rfl) (fun _ => rfl)
      · rcases settled.released lags.released run phase found with ⟨_, token, rfl⟩
        have after := settle_lagsBehind gated (isAsleep_iff.mpr ⟨run, token, found⟩)
        rw [settle_eq_self settled lags.released] at after
        exact after

theorem settle_lagsBehind_of_surrounds {before after : Scene}
    (lags : slow.LagsBehind tasks before.consumer) (around : before.Surrounds after)
    (present : after.session.run.isSome) (goesOn : after.settle.session.state ≠ .stopped) :
    after.isAsleep = true ∧ (after.lagging slow tasks).settle.LagsBehind after.settle := by
  rw [← around.consumer] at lags
  have asleep := isAsleep_of_settle present lags.released goesOn
  exact ⟨asleep, settle_lagsBehind lags asleep⟩

theorem start_lagsBehind {scene : Scene} (lags : scene.LagsBehind prompt)
    (goesOn : prompt.start.2.session.state ≠ .stopped) :
    scene.start.2.LagsBehind prompt.start.2 := by
  cases lags with
  | @intro _ slow tasks lags caughtUp nothing =>
      have state : (prompt.lagging slow tasks).session.state = prompt.session.state := rfl
      have log : (prompt.lagging slow tasks).log = prompt.log := rfl
      rw [start] at goesOn ⊢
      rw [start, state, log]
      by_cases running : prompt.session.state.isRunning = true
      · rw [if_pos running, if_pos running]
        exact .intro lags caughtUp nothing
      rw [if_neg running] at goesOn ⊢
      rw [if_neg running]
      rcases found : prompt.session.run with _ | ⟨run, phase⟩
      · have none := nothing found
        subst none
        rw [found] at goesOn
        rw [lagging_absent found]
        dsimp only [Option.isSome_none, Bool.false_eq_true] at goesOn ⊢
        generalize prompt.log = opened at goesOn ⊢
        cases opened with
        | error error =>
            let after : Scene :=
              { prompt with session := { prompt.session with state := .idle, outcome := none } }
            have next : (after.lagging slow []).LagsBehind after := .intro lags caughtUp nothing
            exact next
        | ok entry =>
            have renews : prompt.Surrounds prompt.renewed := .of_files_eq rfl rfl rfl rfl rfl
            rcases settle_lagsBehind_of_surrounds lags (renews.trans (follow_surrounds _ _ _))
              (follow_isSome _ _ _) goesOn with ⟨asleep, after⟩
            rw [← follow_lagging slow [] asleep] at after
            exact after
      · rw [lagging_present found]
        exact .intro lags caughtUp nothing

theorem notice_lagsBehind {scene : Scene} (lags : scene.LagsBehind prompt) (change : Change)
    (goesOn : (prompt.notice change).2.session.state ≠ .stopped) :
    (scene.notice change).2.LagsBehind (prompt.notice change).2 := by
  cases lags with
  | @intro _ slow tasks lags caughtUp nothing =>
      have still : (prompt.lagging slow tasks).LagsBehind prompt := .intro lags caughtUp nothing
      have settings : (prompt.lagging slow tasks).session.settings = prompt.session.settings := rfl
      rw [notice] at goesOn ⊢
      rw [notice, settings]
      rcases found : prompt.session.run with _ | ⟨run, phase⟩
      · rw [lagging_absent found]
        exact still
      rw [found] at goesOn
      rw [lagging_present found]
      cases phase with
      | asleep token =>
          dsimp only at goesOn ⊢
          by_cases resumes : change.resumes prompt.session.settings.file = true
          · rw [if_pos resumes] at goesOn ⊢
            rw [if_pos resumes]
            rcases settle_lagsBehind_of_surrounds lags (wake_surrounds _ _ _) (wake_isSome _ _ _)
              goesOn with ⟨asleep, after⟩
            rw [← wake_lagging slow tasks asleep] at after
            exact after
          · rw [if_neg resumes, if_neg resumes]
            exact still
      | _ => exact still

theorem join_lagsBehind {scene : Scene} (lags : scene.LagsBehind prompt) :
    scene.join.2.LagsBehind prompt.join.2 := by
  cases lags with
  | @intro _ slow tasks lags caughtUp nothing =>
      have outcome : (prompt.lagging slow tasks).session.outcome = prompt.session.outcome := rfl
      rw [join, join, outcome]
      rcases found : prompt.session.run with _ | ⟨run, phase⟩
      · rw [lagging_absent found]
        cases prompt.session.outcome with
        | none => exact .intro lags caughtUp nothing
        | some outcome =>
            let after : Scene := { prompt with session := { prompt.session with outcome := none } }
            have next : (after.lagging slow tasks).LagsBehind after := .intro lags caughtUp nothing
            exact next
      · rw [lagging_present found]
        exact .intro lags caughtUp nothing

theorem takeFileStep_lagsBehind {scene : Scene} (lags : scene.LagsBehind prompt)
    (step : FileStep) : (scene.takeFileStep step).2.LagsBehind (prompt.takeFileStep step).2 := by
  cases lags with
  | @intro _ slow tasks lags caughtUp nothing =>
      have files : (prompt.lagging slow tasks).files = prompt.files := rfl
      have working : (prompt.lagging slow tasks).working = prompt.working := rfl
      rw [takeFileStep, takeFileStep, files, working]
      cases step.apply prompt.files prompt.working with
      | ok files =>
          let after : Scene := { prompt with files }
          have next : (after.lagging slow tasks).LagsBehind after := .intro lags caughtUp nothing
          exact next
      | error error => exact .intro lags caughtUp nothing

theorem take_lagsBehind {scene : Scene} (lags : scene.LagsBehind prompt) {step : SessionStep}
    (noGate : step.isGate = false) (noStop : step ≠ .stop)
    (goesOn : (prompt.take step).2.session.state ≠ .stopped) :
    (scene.take step).2.LagsBehind (prompt.take step).2 := by
  cases step with
  | start => exact start_lagsBehind lags goesOn
  | stop => contradiction
  | join => exact join_lagsBehind lags
  | file step => exact takeFileStep_lagsBehind lags step
  | notice change => exact notice_lagsBehind lags change goesOn
  | reply reply =>
      cases lags with
      | @intro _ slow tasks lags caughtUp nothing =>
          let after : Scene := { prompt with replies := prompt.replies ++ [reply] }
          have next : (after.lagging slow tasks).LagsBehind after := .intro lags caughtUp nothing
          exact next
  | hold => cases noGate
  | release => cases noGate

end

def ungated (steps : List SessionStep) : List SessionStep :=
  steps.filter (!·.isGate)

theorem takeAll_lagsBehind {scene prompt : Scene} (lags : scene.LagsBehind prompt)
    (settled : prompt.IsSettled) {steps : List SessionStep} (noStop : .stop ∉ steps)
    (goesOn : ∀ taken, taken <+: ungated steps →
      (prompt.takeAll taken).session.state ≠ .stopped) :
    (scene.takeAll steps).LagsBehind (prompt.takeAll (ungated steps)) := by
  induction steps generalizing scene prompt with
  | nil => exact lags
  | cons step steps induction =>
      rw [List.mem_cons, not_or] at noStop
      rcases gate : step.isGate with _ | _
      · have ungated_cons : ungated (step :: steps) = step :: ungated steps := by
          rw [ungated, List.filter_cons_of_pos (by simp [gate])]
          rfl
        rw [ungated_cons] at goesOn ⊢
        have goesOnNow := goesOn [step] (List.prefix_append _ _)
        have next := take_lagsBehind lags gate (Ne.symm noStop.1) goesOnNow
        refine induction next (take_isSettled settled step) noStop.2 ?_
        intro taken isPrefix
        exact goesOn (step :: taken) (List.prefix_cons_inj step |>.mpr isPrefix)
      · have ungated_cons : ungated (step :: steps) = ungated steps := by
          rw [ungated, List.filter_cons_of_neg (by simp [gate])]
          rfl
        rw [ungated_cons] at goesOn ⊢
        have next : (scene.take step).2.LagsBehind prompt := by
          cases step with
          | hold => exact setHolding_lagsBehind lags settled true
          | release => exact setHolding_lagsBehind lags settled false
          | _ => cases gate
        exact induction next settled noStop.2 goesOn

/-- Delivery has no say in reading. Wherever a consumer holds back and lets go again,
the session reads, counts and registers what it does with a consumer that takes
everything at once; and once it has let go it has heard the same. -/
theorem heard_eq_ungated {scene : Scene} (isNew : scene.IsNew)
    (released : scene.consumer.holdsBack = false) {steps : List SessionStep}
    (noStop : .stop ∉ steps)
    (goesOn : ∀ taken, taken <+: ungated steps →
      (scene.takeAll taken).session.state ≠ .stopped) :
    (∀ taken, taken <+: steps →
      let reached := scene.takeAll taken
      let prompt := scene.takeAll (ungated taken)
      reached.session.state = prompt.session.state ∧
        reached.session.offset = prompt.session.offset ∧
        reached.session.malformed = prompt.session.malformed ∧
        reached.registry.active = prompt.registry.active) ∧
    ((scene.takeAll steps).consumer.holdsBack = false →
      (scene.takeAll steps).consumer.heard = (scene.takeAll (ungated steps)).consumer.heard) := by
  have settled := isNew.isSettled
  have lags := LagsBehind.refl isNew.absent released
  constructor
  · rintro taken ⟨rest, rfl⟩
    rw [List.mem_append, not_or] at noStop
    have part := takeAll_lagsBehind lags settled noStop.1 fun some isPrefix =>
      goesOn some (isPrefix.trans ((List.prefix_append taken rest).filter _))
    exact part.unchanged
  · exact (takeAll_lagsBehind lags settled noStop goesOn).heard

/-- A consumer that holds back the beginning, lets go, and holds back a sentence, of
which the second half is read meanwhile. -/
theorem heard_eq_ungated_twice :
    let path := unstarted.session.settings.path
    let tell : SessionStep := .notice { kind := .modified, file := "gps.nmea" }
    let steps : List SessionStep := [
      .hold, .start, .file (.append path [startMarker, 71, 80]), tell, .release, .hold,
      .file (.append path [88, star, 52, 70]), tell, tell, .release]
    ungated steps = [
      .start, .file (.append path [startMarker, 71, 80]), tell,
      .file (.append path [88, star, 52, 70]), tell, tell] ∧
    (unstarted.takeAll (steps.take 4)).holdsCallback = true ∧
    (unstarted.takeAll (steps.take 4)).session.offset = 3 ∧
    (unstarted.takeAll (steps.take 9)).holdsCallback = true ∧
    (unstarted.takeAll (steps.take 9)).session.offset =
      (unstarted.takeAll (ungated (steps.take 9))).session.offset ∧
    (unstarted.takeAll steps).consumer.heard =
      (unstarted.takeAll (ungated steps)).consumer.heard := by
  intro path tell steps
  have isNew : unstarted.IsNew := ⟨rfl, rfl⟩
  have noStop : .stop ∉ steps := by simp [steps, tell]
  have goesOn : ∀ taken ∈ (ungated steps).inits,
      (unstarted.takeAll taken).session.state ≠ .stopped := by
    decide +kernel
  have released : (unstarted.takeAll steps).consumer.holdsBack = false := by
    decide +kernel
  rcases heard_eq_ungated isNew rfl noStop fun taken isPrefix =>
    goesOn taken (List.mem_inits _ _ |>.mpr isPrefix) with ⟨unchanged, heard⟩
  refine ⟨rfl, by decide +kernel, by decide +kernel, by decide +kernel, ?_, heard released⟩
  exact (unchanged (steps.take 9) (List.take_prefix 9 steps)).2.1

end Scene

end ReceiverLog
