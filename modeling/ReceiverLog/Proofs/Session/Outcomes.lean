import ReceiverLog.Proofs.Session.Registrations

namespace ReceiverLog

/-! How a run ended is told once. A run that is ending has its outcome fixed already: no
step but a new start has a say in it any more. The first join that returns takes it, and
to all later ones nothing is left to tell. -/

def RunPhase.outcome? : RunPhase → Option (Except Failure Unit)
  | .asleep _ => none
  | .refused cause => some (.error cause)
  | .closing outcome => some outcome

namespace Scene

/-- The latest run ends with an outcome, or has ended with it and nobody has asked. -/
inductive EndsWith (scene : Scene) (outcome : Except Failure Unit) : Prop
  | ending {run : Run} {phase : RunPhase} : scene.session.run = some (run, phase) →
      phase.outcome? = some outcome → EndsWith scene outcome
  | ended : scene.session.run = none → scene.session.state = .stopped →
      scene.session.outcome = some outcome → EndsWith scene outcome

structure IsAsked (scene : Scene) : Prop where
  absent : scene.session.run = none
  state : scene.session.state = .stopped
  outcome : scene.session.outcome = none

section

variable {scene : Scene} {outcome : Except Failure Unit}

theorem EndsWith.congr {after : Scene} (ends : scene.EndsWith outcome)
    (session : after.session = scene.session) : after.EndsWith outcome := by
  cases ends with
  | ending present fixed => exact .ending (session ▸ present) fixed
  | ended absent state unasked =>
      exact .ended (session ▸ absent) (session ▸ state) (session ▸ unasked)

theorem EndsWith.settle (ends : scene.EndsWith outcome) : scene.settle.EndsWith outcome := by
  cases ends with
  | ended absent state unasked =>
      rw [Scene.settle, absent]
      exact .ended absent state unasked
  | @ending run phase present fixed =>
      rw [Scene.settle, present]
      dsimp only
      cases (scene.consumer.work run.pending).2 with
      | cons task rest =>
          cases phase with
          | _ => exact .ending rfl fixed
      | nil =>
          cases phase with
          | asleep token => cases fixed
          | _ =>
              cases fixed
              exact .ended rfl rfl rfl

theorem EndsWith.setHolding (ends : scene.EndsWith outcome) (holdsBack : Bool) :
    (scene.setHolding holdsBack).EndsWith outcome := by
  rw [Scene.setHolding]
  refine EndsWith.settle ?_
  exact ends.congr rfl

theorem EndsWith.stop (ends : scene.EndsWith outcome) : scene.stop.2.EndsWith outcome := by
  rw [Scene.stop]
  split
  · exact ends
  cases ends with
  | ended absent state unasked =>
      rw [absent]
      exact .ended absent state unasked
  | @ending run phase present fixed =>
      rw [present]
      cases phase with
      | asleep token => cases fixed
      | refused cause => exact .ending present fixed
      | closing kept => exact .ending present fixed

theorem EndsWith.notice (ends : scene.EndsWith outcome) (change : Change) :
    (scene.notice change).2 = scene := by
  rw [Scene.notice]
  cases ends with
  | ended absent state unasked => rw [absent]
  | @ending run phase present fixed =>
      rw [present]
      cases phase with
      | asleep token => cases fixed
      | _ => rfl

theorem takeFileStep_session (scene : Scene) (step : FileStep) :
    (scene.takeFileStep step).2.session = scene.session := by
  rw [takeFileStep]
  split <;> rfl

theorem EndsWith.take (ends : scene.EndsWith outcome) {step : SessionStep}
    (noStart : step ≠ .start) :
    (step = .join ∧ (scene.take step).1 = .of outcome ∧ (scene.take step).2.IsAsked) ∨
      ((step = .join → (scene.take step).1 = .waits) ∧
        (scene.take step).2.EndsWith outcome) := by
  cases step with
  | start => exact absurd rfl noStart
  | join =>
      rw [Scene.take, join]
      cases ends with
      | ended absent state unasked =>
          rw [absent, unasked]
          exact .inl ⟨rfl, rfl, absent, state, rfl⟩
      | ending present fixed =>
          rw [present]
          exact .inr ⟨fun _ => rfl, .ending present fixed⟩
  | stop => exact .inr ⟨by simp, ends.stop⟩
  | file step => exact .inr ⟨by simp, ends.congr (scene.takeFileStep_session step)⟩
  | notice change =>
      refine .inr ⟨by simp, ?_⟩
      rw [Scene.take, ends.notice]
      exact ends
  | reply reply => exact .inr ⟨by simp, ends.congr rfl⟩
  | hold => exact .inr ⟨by simp, ends.setHolding true⟩
  | release => exact .inr ⟨by simp, ends.setHolding false⟩

theorem IsAsked.congr {after : Scene} (asked : scene.IsAsked)
    (session : after.session = scene.session) : after.IsAsked :=
  ⟨session ▸ asked.absent, session ▸ asked.state, session ▸ asked.outcome⟩

theorem setHolding_session (absent : scene.session.run = none) (holdsBack : Bool) :
    (scene.setHolding holdsBack).session = scene.session := by
  rw [setHolding, settle]
  dsimp only
  rw [absent]

theorem IsAsked.take (asked : scene.IsAsked) {step : SessionStep} (noStart : step ≠ .start) :
    (step = .join → (scene.take step).1 = .done) ∧ (scene.take step).2.IsAsked := by
  cases step with
  | start => exact absurd rfl noStart
  | join =>
      rw [Scene.take, join, asked.absent, asked.outcome]
      exact ⟨fun _ => rfl, asked⟩
  | stop =>
      rw [Scene.take, stop, asked.state]
      exact ⟨by simp, asked⟩
  | file step => exact ⟨by simp, asked.congr (scene.takeFileStep_session step)⟩
  | notice change =>
      rw [Scene.take, notice, asked.absent]
      exact ⟨by simp, asked⟩
  | reply reply => exact ⟨by simp, asked.congr rfl⟩
  | hold => exact ⟨by simp, asked.congr (setHolding_session asked.absent true)⟩
  | release => exact ⟨by simp, asked.congr (setHolding_session asked.absent false)⟩

end

/-! ## Joins -/

def joinAnswer? (scene : Scene) : SessionStep → Option StepAnswer
  | .join =>
      match scene.join.1 with
      | .waits => none
      | answer => some answer
  | _ => none

def joinAnswers (scene : Scene) : List SessionStep → List StepAnswer
  | [] => []
  | step :: steps =>
      (scene.joinAnswer? step).toList ++ (scene.take step).2.joinAnswers steps

section

variable {scene : Scene} {outcome : Except Failure Unit} {step : SessionStep}
  {steps : List SessionStep}

theorem joinAnswer?_waits (waits : step = .join → (scene.take step).1 = .waits) :
    scene.joinAnswer? step = none := by
  cases step with
  | join =>
      have answer : scene.join.1 = .waits := waits rfl
      rw [joinAnswer?, answer]
  | _ => rfl

theorem joinAnswer?_answers {answer : StepAnswer} (answers : (scene.take .join).1 = answer)
    (returns : answer ≠ .waits) : scene.joinAnswer? .join = some answer := by
  have same : scene.join.1 = answer := answers
  rw [joinAnswer?, same]
  cases answer with
  | waits => exact absurd rfl returns
  | _ => rfl

private theorem StepAnswer.of_ne_waits (outcome : Except Failure Unit) :
    StepAnswer.of outcome ≠ .waits := by
  cases outcome <;> nofun

theorem IsAsked.joinAnswers_eq (asked : scene.IsAsked) (noStart : .start ∉ steps) :
    (∃ count, scene.joinAnswers steps = List.replicate count .done) ∧
      (scene.takeAll steps).IsAsked := by
  induction steps generalizing scene with
  | nil => exact ⟨⟨0, rfl⟩, asked⟩
  | cons step steps induction =>
      rw [List.mem_cons, not_or] at noStart
      rcases asked.take (Ne.symm noStart.1) with ⟨answer, after⟩
      rcases induction after noStart.2 with ⟨⟨count, later⟩, final⟩
      refine ⟨?_, final⟩
      by_cases join : step = .join
      · subst join
        rw [joinAnswers, joinAnswer?_answers (answer rfl) nofun, later]
        exact ⟨count + 1, rfl⟩
      · rw [joinAnswers, joinAnswer?_waits (fun equal => absurd equal join), later]
        exact ⟨count, rfl⟩

theorem EndsWith.joinAnswers_eq (ends : scene.EndsWith outcome) (noStart : .start ∉ steps) :
    (scene.joinAnswers steps = [] ∧ (scene.takeAll steps).EndsWith outcome) ∨
      ((∃ count, scene.joinAnswers steps = .of outcome :: List.replicate count .done) ∧
        (scene.takeAll steps).IsAsked) := by
  induction steps generalizing scene with
  | nil => exact .inl ⟨rfl, ends⟩
  | cons step steps induction =>
      rw [List.mem_cons, not_or] at noStart
      rcases ends.take (Ne.symm noStart.1) with ⟨rfl, answer, asked⟩ | ⟨waits, goesOn⟩
      · rcases asked.joinAnswers_eq noStart.2 with ⟨⟨count, later⟩, final⟩
        refine .inr ⟨⟨count, ?_⟩, final⟩
        rw [joinAnswers, joinAnswer?_answers answer (StepAnswer.of_ne_waits outcome), later]
        rfl
      · rw [joinAnswers, joinAnswer?_waits waits]
        exact induction goesOn noStart.2

theorem EndsWith.awake (ends : scene.EndsWith outcome) (run : Run) (token : WatchToken) :
    scene.session.run ≠ some (run, .asleep token) := by
  intro asleep
  cases ends with
  | ended absent _ _ => cases absent.symm.trans asleep
  | ending present fixed =>
      cases present.symm.trans asleep
      cases fixed

theorem IsOrderly.active_of_awake (orderly : scene.IsOrderly)
    (awake : ∀ run token, scene.session.run ≠ some (run, .asleep token)) :
    scene.registry.active = 0 := by
  rw [WatchRegistry.active, List.length_eq_zero_iff]
  exact orderly.watches_of_awake awake

theorem EndsWith.unasked (ends : scene.EndsWith outcome) (quiet : scene.IsQuiet)
    (free : scene.holdsCallback = false) :
    scene.session.run = none ∧ scene.session.state = .stopped ∧
      scene.session.outcome = some outcome := by
  cases ends with
  | ended absent state unasked => exact ⟨absent, state, unasked⟩
  | ending present fixed =>
      rcases (quiet _ _ present free).2 with ⟨token, rfl⟩
      cases fixed

end

/-- The latest run ends with an outcome that is told once. Whatever follows but another
start, the first join that returns answers with it, and all later ones with success. No
watch is left; and once no callback is held, the session is stopped and a join returns. -/
def TellsOnce (scene : Scene) (outcome : Except Failure Unit) : Prop :=
  ∀ steps, .start ∉ steps →
    let final := scene.takeAll steps
    let answers := scene.joinAnswers steps
    (answers = [] ∨ ∃ count, answers = .of outcome :: List.replicate count .done) ∧
    final.registry.active = 0 ∧
    (final.holdsCallback = false →
      final.session.state = .stopped ∧ final.session.offset = 0 ∧
      (final.take .join).1 = if answers = [] then .of outcome else .done)

theorem EndsWith.tellsOnce {scene : Scene} {outcome : Except Failure Unit}
    (ends : scene.EndsWith outcome) (orderly : scene.IsOrderly) (quiet : scene.IsQuiet) :
    scene.TellsOnce outcome := by
  intro steps noStart final answers
  have finalOrderly : final.IsOrderly := takeAll_induction take_isOrderly orderly steps
  have finalQuiet : final.IsQuiet := takeAll_induction take_isQuiet quiet steps
  rcases ends.joinAnswers_eq noStart with ⟨none, goesOn⟩ | ⟨⟨count, told⟩, asked⟩
  · refine ⟨.inl none, finalOrderly.active_of_awake goesOn.awake, ?_⟩
    intro free
    rcases goesOn.unasked finalQuiet free with ⟨absent, state, unasked⟩
    refine ⟨state, ?_, ?_⟩
    · rw [Session.offset, absent]
    · rw [if_pos none, Scene.take, join, absent, unasked]
  · have awake : ∀ run token, final.session.run ≠ some (run, .asleep token) := by
      intro run token asleep
      cases asked.absent.symm.trans asleep
    refine ⟨.inr ⟨count, told⟩, finalOrderly.active_of_awake awake, ?_⟩
    intro _
    refine ⟨asked.state, ?_, ?_⟩
    · rw [Session.offset, asked.absent]
    · have some : answers ≠ [] := by simp [answers, told]
      rw [if_neg some, Scene.take, join, asked.absent, asked.outcome]

end Scene

end ReceiverLog
