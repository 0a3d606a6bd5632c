import ReceiverLog.Proofs.Session.Telling

namespace ReceiverLog

/-! What becomes of a run, and the block of events that it leaves behind with the
consumer. -/

namespace Consumer

theorem exists_work_eq (consumer : Consumer) (tasks : List (Task Delivery)) :
    ∃ completed, completed ++ (consumer.work tasks).2 = tasks ∧
      (consumer.work tasks).1 = consumer.hear (completed.flatMap (·.body)) := by
  rw [work]
  split
  · refine ⟨tasks.takeWhile (!consumer.noticesTask ·), List.takeWhile_append_dropWhile, ?_⟩
    have unheard : ((tasks.takeWhile (!consumer.noticesTask ·)).flatMap (·.body)).filter
        consumer.hears = [] := by
      apply List.filter_eq_nil_iff.mpr
      intro event member heard
      rcases List.mem_flatMap.mp member with ⟨task, taken, inside⟩
      have silent := List.mem_takeWhile_imp taken
      have noticed : consumer.noticesTask task = true :=
        List.any_eq_true.mpr ⟨event, inside, heard⟩
      rw [noticed] at silent
      cases silent
    rw [hear, unheard, List.append_nil]
  · exact ⟨tasks, List.append_nil _, rfl⟩

end Consumer

/-- What is noted of a run: the bytes that it has read, and how it was ended. -/
structure RunRecord where
  consumed : List UInt8
  ending : Option Ending

/-- The events of a run. Only those at the end may be missing, of a run that was
ended; and only a run that was stopped tells of its end. -/
inductive RunRecord.IsBlock (now : Int) : RunRecord → List Event → Prop
  | going {consumed : List UInt8} :
      IsBlock now { consumed, ending := none }
        (.status .begin :: (Reading.of now consumed).deliveries.flatten)
  | stopped {consumed : List UInt8} {told : List Delivery} :
      told <+: (Reading.of now consumed).deliveries →
      IsBlock now { consumed, ending := some .stopped }
        (.status .begin :: (told.flatten ++ [.status .finish]))
  | aborted {consumed : List UInt8} {told : List Delivery} :
      told <+: (Reading.of now consumed).deliveries →
      IsBlock now { consumed, ending := some .aborted } (.status .begin :: told.flatten)

theorem Run.Tells.isBlock {now : Int} {done : List (Task Delivery)} {consumed : List UInt8}
    {run : Run} {phase : RunPhase} {ending : Option Ending}
    (tells : run.Tells now done consumed phase ending) (complete : run.pending = []) :
    RunRecord.IsBlock now { consumed, ending } (done.flatMap (·.body)) := by
  cases tells with
  | asleep going =>
      have planned := going.planned
      rw [complete, List.append_nil] at planned
      rw [planned, flatMap_body_plan]
      exact .going
  | refused going =>
      have planned := going.planned
      rw [complete, List.append_nil] at planned
      rw [planned, flatMap_body_plan]
      exact .aborted (List.prefix_refl _)
  | failed isPrefix planned =>
      rw [complete, List.append_nil] at planned
      rw [planned, flatMap_body_plan]
      exact .aborted isPrefix
  | stopped isPrefix planned =>
      rw [complete, List.append_nil] at planned
      rw [planned, List.flatMap_append, flatMap_body_plan]
      exact .stopped isPrefix

theorem Run.Tells.complete {now : Int} {done completed pending : List (Task Delivery)}
    {consumed : List UInt8} {run : Run} {phase : RunPhase} {ending : Option Ending}
    (tells : run.Tells now done consumed phase ending)
    (split : completed ++ pending = run.pending) :
    Tells now (done ++ completed) consumed { run with pending } phase ending := by
  cases tells with
  | asleep going =>
      refine .asleep ⟨going.reader, ?_⟩
      rw [List.append_assoc, split, going.planned]
  | refused going =>
      refine .refused ⟨going.reader, ?_⟩
      rw [List.append_assoc, split, going.planned]
  | failed isPrefix planned =>
      refine .failed isPrefix ?_
      rw [List.append_assoc, split, planned]
  | stopped isPrefix planned =>
      refine .stopped isPrefix ?_
      rw [List.append_assoc, split, planned]

namespace Scene

/-- The consumer has heard of the latest run, after some events from before, what
that run has told. -/
inductive Narrates (scene : Scene) (earlier : List Event) (record : RunRecord) : Prop
  | telling (done : List (Task Delivery)) :
      scene.Tells done record.consumed record.ending →
      scene.consumer.heard =
        earlier ++ (done.flatMap (·.body)).filter scene.consumer.hears →
      Narrates scene earlier record
  | told (events : List Event) : scene.session.run = none →
      record.IsBlock scene.now events →
      scene.consumer.heard = earlier ++ events.filter scene.consumer.hears →
      Narrates scene earlier record

variable {scene : Scene} {earlier : List Event} {record : RunRecord}

/-- Two scenes that differ in nothing that decides what has been told. -/
structure Alike (scene after : Scene) : Prop where
  run : after.session.run = scene.session.run
  malformed : after.session.malformed = scene.session.malformed
  now : after.now = scene.now
  hears : after.consumer.hears = scene.consumer.hears
  heard : after.consumer.heard = scene.consumer.heard

theorem Alike.refl (scene : Scene) : scene.Alike scene :=
  ⟨rfl, rfl, rfl, rfl, rfl⟩

theorem Narrates.congr {after : Scene} (narrates : scene.Narrates earlier record)
    (alike : scene.Alike after) : after.Narrates earlier record := by
  cases narrates with
  | telling done tells heard =>
      refine .telling done ⟨?_, ?_⟩ (by rw [alike.heard, alike.hears, heard])
      · rw [alike.run, alike.now]
        exact tells.run
      · rw [alike.malformed, alike.now]
        exact tells.malformed
  | told events ended block heard =>
      refine .told events (alike.run.trans ended) ?_ (by rw [alike.heard, alike.hears, heard])
      rw [alike.now]
      exact block

theorem Narrates.going (narrates : scene.Narrates earlier record) {run : Run}
    {token : WatchToken} (present : scene.session.run = some (run, .asleep token))
    (sound : scene.files.IsSound) :
    ∃ done, scene.Going run done record.consumed ∧ record.ending = none ∧
      scene.consumer.heard =
        earlier ++ (done.flatMap (·.body)).filter scene.consumer.hears := by
  cases narrates with
  | told _ ended _ _ => cases present.symm.trans ended
  | telling done tells heard =>
      rcases tells with ⟨⟨other, phase, otherPresent, otherTells⟩, malformed⟩
      cases present.symm.trans otherPresent
      generalize record.ending = ending at otherTells
      cases otherTells with
      | asleep going => exact ⟨done, ⟨sound, going, malformed⟩, rfl, heard⟩

theorem settle_narrates (narrates : scene.Narrates earlier record) :
    scene.settle.Narrates earlier record := by
  rw [settle]
  cases narrates with
  | told events ended block heard =>
      rw [ended]
      exact .told events ended block heard
  | telling done tells heard =>
      rcases tells with ⟨⟨run, phase, found, tells⟩, malformed⟩
      rcases scene.consumer.exists_work_eq run.pending with ⟨completed, whole, worked⟩
      have completedTells := tells.complete whole
      have heardNow : (scene.consumer.hear (completed.flatMap (·.body))).heard =
          earlier ++ ((done ++ completed).flatMap (·.body)).filter scene.consumer.hears := by
        rw [Consumer.hear, heard, List.append_assoc, ← List.filter_append, List.flatMap_append]
      rw [found]
      dsimp only
      rw [worked]
      cases left : (scene.consumer.work run.pending).2 with
      | cons task rest =>
          rw [left] at completedTells
          cases phase with
          | _ => exact .telling _ ⟨⟨_, _, rfl, completedTells⟩, malformed⟩ heardNow
      | nil =>
          rw [left] at completedTells
          have block := completedTells.isBlock rfl
          cases phase with
          | asleep token => exact .telling _ ⟨⟨_, _, rfl, completedTells⟩, malformed⟩ heardNow
          | _ => exact .told _ rfl block heardNow

theorem settle_fate (scene : Scene) : scene.settle.fate = scene.fate := by
  rw [settle]
  rcases found : scene.session.run with _ | ⟨run, phase⟩
  · rfl
  · dsimp only
    cases (scene.consumer.work run.pending).2 with
    | nil => cases phase <;> simp [fate, found, setRun, finish]
    | cons task rest => cases phase <;> simp [fate, found, setRun]

end Scene

end ReceiverLog
