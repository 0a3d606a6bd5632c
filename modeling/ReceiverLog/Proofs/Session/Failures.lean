import Mathlib.Data.List.Flatten
import ReceiverLog.Proofs.Session.Offsets
import ReceiverLog.Proofs.Session.Outcomes

namespace ReceiverLog

/-! How a run fails. It fails if it opens its log and finds a directory, if after a change
the log cannot be opened for another reason than that it is gone, and if a watch is
refused. What a reader feeds its decoder never fails. A failed run does not tell its end;
the failure is told by the next join. -/

/-! ## Reading does not fail -/

namespace Reader

theorem length_fill {buffer : List UInt8} (size : buffer.length = chunkSize)
    (unread : FileContents) :
    (unread.take chunkSize).length ≤ chunkSize ∧
      (fill buffer (unread.take chunkSize)).length = chunkSize := by
  have fits : (unread.take chunkSize).length ≤ chunkSize := by
    rw [FileContents.length_take]
    exact Nat.min_le_left _ _
  refine ⟨fits, ?_⟩
  rw [fill, List.length_append, List.length_drop]
  omega

private theorem fault_consume (now : Int) (reader : Reader) (buffer : List UInt8)
    (unread : FileContents) : (reader.consume now buffer unread).fault = none := by
  fun_induction consume now reader buffer unread with
  | case1 reader buffer unread passed some induction => exact induction
  | case2 reader buffer unread passed none chunk exhausted => rfl
  | case3 reader buffer unread passed none chunk present filled fault fed =>
      cases (feed_fill reader.decoder buffer chunk).symm.trans fed
  | case4 reader buffer unread passed none chunk present filled outcomes decoder fed fix
      deliveries malformed heard offset rest induction => exact induction

theorem fault_readOn (now : Int) (reader : Reader) (contents : FileContents) :
    (reader.readOn now contents).fault = none :=
  fault_consume now reader _ _

private theorem offset_consume (now : Int) (reader : Reader) (buffer : List UInt8)
    (unread : FileContents) :
    (reader.consume now buffer unread).reader.offset = reader.offset + unread.size := by
  fun_induction consume now reader buffer unread with
  | case1 reader buffer unread passed some induction =>
      have bound : passed ≤ unread.size := reader.passable_le_size unread
      rw [induction, FileContents.size_drop]
      dsimp only
      omega
  | case2 reader buffer unread passed none chunk exhausted =>
      have empty := congrArg List.length exhausted
      rw [FileContents.length_take, List.length_nil, chunkSize] at empty
      dsimp only
      omega
  | case3 reader buffer unread passed none chunk present filled fault fed =>
      cases (feed_fill reader.decoder buffer chunk).symm.trans fed
  | case4 reader buffer unread passed none chunk present filled outcomes decoder fed fix
      deliveries malformed heard offset rest induction =>
      dsimp only
      rw [induction, FileContents.size_drop]
      dsimp only [offset, chunk]
      rw [FileContents.length_take]
      omega

theorem offset_readOn (now : Int) (reader : Reader) (contents : FileContents) :
    (reader.readOn now contents).reader.offset = max reader.offset contents.size := by
  rw [readOn, offset_consume, FileContents.size_drop]
  omega

theorem isDelivery_consume (now : Int) (reader : Reader) (buffer : List UInt8)
    (unread : FileContents) :
    ∀ told ∈ (reader.consume now buffer unread).deliveries, IsDelivery told := by
  fun_induction consume now reader buffer unread with
  | case1 reader buffer unread passed some induction => exact induction
  | case2 reader buffer unread passed none chunk exhausted => exact nofun
  | case3 reader buffer unread passed none chunk present filled fault fed => exact nofun
  | case4 reader buffer unread passed none chunk present filled outcomes decoder fed fix
      deliveries malformed heard offset rest induction =>
      have first := hear_isDelivery now reader.fix outcomes
      rw [heard] at first
      rw [List.forall_mem_append]
      exact ⟨first, induction⟩

end Reader

/-! ## No end is told -/

def HasNoEnd (events : List Event) : Prop :=
  Event.status .finish ∉ events

theorem HasNoEnd.append {first second : List Event} (firstHas : HasNoEnd first)
    (secondHas : HasNoEnd second) : HasNoEnd (first ++ second) := by
  rw [HasNoEnd, List.mem_append, not_or]
  exact ⟨firstHas, secondHas⟩

theorem HasNoEnd.subset {events others : List Event} (has : HasNoEnd events)
    (subset : others ⊆ events) : HasNoEnd others :=
  fun member => has (subset member)

theorem Reader.IsDelivery.hasNoEnd {told : Delivery} (isDelivery : Reader.IsDelivery told) :
    HasNoEnd told := by
  cases isDelivery <;> simp [HasNoEnd]

def Run.IsUnended (run : Run) : Prop :=
  HasNoEnd (run.pending.flatMap (·.body))

namespace Run.IsUnended

variable {run : Run}

theorem begun : Scene.beginRun.IsUnended := by
  simp [IsUnended, HasNoEnd, Scene.beginRun, Task.kept]

theorem absorb (unended : run.IsUnended) (scene : Scene) (contents : FileContents) :
    (scene.absorb run (run.reader.readOn scene.now contents)).2.IsUnended := by
  rw [IsUnended]
  dsimp only [Scene.absorb]
  rw [List.flatMap_append]
  refine unended.append ?_
  intro member
  rcases List.mem_flatMap.mp member with ⟨task, listed, inside⟩
  rcases List.mem_map.mp listed with ⟨told, delivered, rfl⟩
  exact (Reader.isDelivery_consume _ _ _ _ told delivered).hasNoEnd inside

theorem of_sublist (unended : run.IsUnended) {pending : List (Task Delivery)}
    (sublist : pending.Sublist run.pending) : Run.IsUnended { run with pending } := by
  refine HasNoEnd.subset unended ?_
  exact (sublist.flatMap _).subset

theorem aborted (unended : run.IsUnended) :
    Run.IsUnended { run with
      pending := run.pending.take 1 ++ Task.discard (run.pending.drop 1) none } := by
  apply unended.of_sublist
  have kept : (Task.discard (run.pending.drop 1) none).Sublist (run.pending.drop 1) := by
    rw [Task.discard, Option.map_none, Option.toList_none, List.append_nil]
    exact List.filter_sublist
  have whole := (List.Sublist.refl (run.pending.take 1)).append kept
  rwa [List.take_append_drop] at whole

end Run.IsUnended

namespace Scene

/-! ## What fails -/

/-- The failure of the registrations to come: the first that is refused, unless one is
accepted before it while the log holds nothing beyond what has been read. -/
def refusal? (scene : Scene) (offset : Nat) : List WatchReply → Option Failure
  | [] => none
  | .refuse cause :: _ => some cause
  | .refuseAtOnce cause :: _ => some cause
  | .accept landed :: replies =>
      let watching := scene.watching landed replies
      match watching.log with
      | .ok (.file contents) =>
          if offset < contents.size then watching.refusal? contents.size replies else none
      | _ => none

theorem refusal?_accept (scene : Scene) (offset : Nat) (landed : Option (List UInt8))
    (replies : List WatchReply) :
    scene.refusal? offset (.accept landed :: replies) =
      match (scene.watching landed replies).log with
      | .ok (.file contents) =>
          if offset < contents.size then
            (scene.watching landed replies).refusal? contents.size replies
          else none
      | _ => none := by
  rfl

def openedFailure? (scene : Scene) (offset : Nat) : FileEntry → Option Failure
  | .directory => some (.file FileError.isDirectory.message)
  | .file contents => scene.refusal? (max offset contents.size) scene.replies

def wakeFailure? (scene : Scene) (offset : Nat) : Option Failure :=
  match scene.log with
  | .ok entry => scene.openedFailure? offset entry
  | .error .notFound => scene.refusal? offset scene.replies
  | .error error => some (.file error.message)

/-- The failure by which a run ends in a step. A start that cannot open the log begins no
run. -/
def failure? (scene : Scene) : SessionStep → Option Failure
  | .start =>
      match scene.session.run, scene.log with
      | none, .ok entry => scene.openedFailure? 0 entry
      | _, _ => none
  | .notice change =>
      if scene.isAsleep && change.resumes scene.session.settings.file then
        scene.wakeFailure? scene.session.offset
      else none
  | _ => none

theorem Around.watching {scene other : Scene} (around : scene.Around other)
    (landed : Option (List UInt8)) (replies : List WatchReply) :
    (scene.watching landed replies).Around (other.watching landed replies) where
  files := by
    have landing : other.landing = scene.landing := by
      unfold Scene.landing
      rw [around.files, around.working, around.settings]
    simp only [Scene.watching, landing, around.files]
  working := around.working
  settings := around.settings
  replies := rfl

theorem Around.refusal?_eq {scene other : Scene} (around : scene.Around other) (offset : Nat)
    (replies : List WatchReply) :
    other.refusal? offset replies = scene.refusal? offset replies := by
  induction replies generalizing scene other offset with
  | nil => rfl
  | cons reply replies induction =>
      cases reply with
      | refuse cause => rfl
      | refuseAtOnce cause => rfl
      | accept landed =>
          have watching := around.watching landed replies
          rw [refusal?_accept, refusal?_accept, around.log_watching]
          rcases (scene.watching landed replies).log with error | contents | _
          · rfl
          · dsimp only
            rw [induction watching]
          · rfl

/-! ## What a run comes to -/

inductive ComesTo (scene : Scene) : Option Failure → Prop
  | sleeps {run : Run} {token : WatchToken} :
      scene.session.run = some (run, .asleep token) → run.IsUnended → ComesTo scene none
  | fails {run : Run} {phase : RunPhase} {cause : Failure} :
      scene.session.run = some (run, phase) → phase.outcome? = some (.error cause) →
      run.IsUnended → ComesTo scene (some cause)

section

variable {scene : Scene} {run : Run}

theorem await_comesTo (unended : run.IsUnended) (replies : List WatchReply) :
    (scene.await run replies).ComesTo (scene.refusal? run.reader.offset replies) := by
  induction replies generalizing scene run with
  | nil => exact .sleeps rfl unended
  | cons reply replies induction =>
      cases reply with
      | refuse cause => exact .fails rfl rfl unended
      | refuseAtOnce cause => exact .fails rfl rfl unended.aborted
      | accept landed =>
          rw [await_accept, refusal?_accept]
          rcases (scene.watching landed replies).log with error | contents | _
          · exact .sleeps rfl unended
          · dsimp only
            split
            · next longer =>
                let read := scene.readLanded run landed replies contents
                have offset : read.2.reader.offset = contents.size := by
                  have reached := Reader.offset_readOn scene.now run.reader contents
                  rw [Nat.max_eq_right (Nat.le_of_lt longer)] at reached
                  exact reached
                have around : (scene.watching landed replies).Around read.1 :=
                  ⟨rfl, rfl, rfl, rfl⟩
                rw [Reader.fault_readOn, ← offset, ← around.refusal?_eq]
                exact induction (unended.absorb (scene.withdrawn landed replies) contents)
            · exact .sleeps rfl unended
          · exact .sleeps rfl unended

theorem follow_comesTo (unended : run.IsUnended) (entry : FileEntry) :
    (scene.follow run entry).ComesTo (scene.openedFailure? run.reader.offset entry) := by
  cases entry with
  | directory => exact .fails rfl rfl unended.aborted
  | file contents =>
      let read := scene.absorb run (run.reader.readOn scene.now contents)
      have around : scene.Around read.1 := ⟨rfl, rfl, rfl, rfl⟩
      rw [follow, openedFailure?, ← Reader.offset_readOn scene.now]
      dsimp only
      rw [Reader.fault_readOn]
      dsimp only
      rw [← around.refusal?_eq]
      exact await_comesTo (unended.absorb scene contents) _

theorem wake_comesTo (unended : run.IsUnended) (token : WatchToken) :
    (scene.wake run token).ComesTo (scene.wakeFailure? run.reader.offset) := by
  have around : scene.Around (scene.woken token) := ⟨rfl, rfl, rfl, rfl⟩
  rw [wake_eq]
  unfold wakeFailure?
  rcases scene.log with error | entry
  · cases error with
    | notFound =>
        dsimp only
        rw [← around.refusal?_eq]
        exact await_comesTo unended _
    | _ => exact .fails rfl rfl unended.aborted
  · have opened : scene.openedFailure? run.reader.offset entry =
        (scene.woken token).openedFailure? run.reader.offset entry := by
      cases entry with
      | directory => rfl
      | file contents => exact (around.refusal?_eq _ _).symm
    dsimp only
    rw [opened]
    exact follow_comesTo unended entry

end

/-! ## A failed run does not tell its end -/

def TellsNoEnd (scene : Scene) : Prop :=
  ∀ run phase, scene.session.run = some (run, phase) → phase ≠ .closing (.ok ()) →
    run.IsUnended

def HearsNoEnd (scene after : Scene) : Prop :=
  ∃ events, after.consumer.heard = scene.consumer.heard ++ events ∧ HasNoEnd events

theorem HearsNoEnd.of_heard {before after : Scene}
    (same : after.consumer.heard = before.consumer.heard) : before.HearsNoEnd after :=
  ⟨[], by rw [same, List.append_nil], List.not_mem_nil⟩

theorem HearsNoEnd.trans {before between after : Scene} (first : before.HearsNoEnd between)
    (second : between.HearsNoEnd after) : before.HearsNoEnd after := by
  rcases first with ⟨events, heard, hasNoEnd⟩
  rcases second with ⟨others, heardLater, otherHasNoEnd⟩
  exact ⟨events ++ others, by rw [heardLater, heard, List.append_assoc],
    hasNoEnd.append otherHasNoEnd⟩

section

variable {scene after : Scene}

theorem TellsNoEnd.of_absent (absent : scene.session.run = none) : scene.TellsNoEnd :=
  fun _ _ present => nomatch absent.symm.trans present

theorem TellsNoEnd.of_present {run : Run} {phase : RunPhase}
    (present : scene.session.run = some (run, phase)) (unended : run.IsUnended) :
    scene.TellsNoEnd := by
  intro _ _ same _
  cases present.symm.trans same
  exact unended

theorem TellsNoEnd.congr (untold : scene.TellsNoEnd)
    (run : after.session.run = scene.session.run) : after.TellsNoEnd := by
  rw [TellsNoEnd]
  rw [run]
  exact untold

theorem ComesTo.tellsNoEnd {failure : Option Failure} (comes : scene.ComesTo failure) :
    scene.TellsNoEnd := by
  cases comes with
  | sleeps present unended => exact .of_present present unended
  | fails present _ unended => exact .of_present present unended

theorem TellsNoEnd.settle (untold : scene.TellsNoEnd) : scene.settle.TellsNoEnd := by
  rw [Scene.settle]
  rcases found : scene.session.run with _ | ⟨run, phase⟩
  · exact .of_absent found
  rcases scene.consumer.exists_work_eq run.pending with ⟨completed, whole, _⟩
  have left := List.sublist_append_right completed (scene.consumer.work run.pending).2
  rw [whole] at left
  dsimp only
  split
  · exact .of_absent rfl
  · exact .of_absent rfl
  · intro _ _ present notStopped
    cases present
    exact (untold run _ found notStopped).of_sublist left

theorem TellsNoEnd.hears_settle (untold : scene.TellsNoEnd)
    (unstopped : ∀ run, scene.session.run ≠ some (run, .closing (.ok ()))) :
    scene.HearsNoEnd scene.settle := by
  rw [Scene.settle]
  rcases found : scene.session.run with _ | ⟨run, phase⟩
  · exact .of_heard rfl
  rcases scene.consumer.exists_work_eq run.pending with ⟨completed, whole, worked⟩
  have notStopped : phase ≠ .closing (.ok ()) := by
    rintro rfl
    exact unstopped run found
  have unended : HasNoEnd (completed.flatMap (·.body)) := by
    refine HasNoEnd.subset (untold run phase found notStopped) ?_
    rw [← whole, List.flatMap_append]
    exact List.subset_append_left _ _
  have delivered : ∀ after : Scene,
      after.consumer = (scene.consumer.work run.pending).1 → scene.HearsNoEnd after := by
    intro after consumer
    refine ⟨(completed.flatMap (·.body)).filter scene.consumer.hears, ?_,
      unended.subset (List.filter_subset_self _)⟩
    rw [consumer, worked]
    rfl
  dsimp only
  split
  · exact delivered _ rfl
  · exact delivered _ rfl
  · exact delivered _ rfl

theorem TellsNoEnd.hears_setHolding (untold : scene.TellsNoEnd)
    (unstopped : ∀ run, scene.session.run ≠ some (run, .closing (.ok ()))) (holdsBack : Bool) :
    scene.HearsNoEnd (scene.setHolding holdsBack) := by
  have held : TellsNoEnd { scene with consumer := { scene.consumer with holdsBack } } :=
    untold.congr rfl
  exact .trans (.of_heard rfl) (held.hears_settle unstopped)

theorem Moves.tellsNoEnd (moves : scene.Moves after) (untold : scene.TellsNoEnd) :
    after.TellsNoEnd := by
  cases moves with
  | rests run _ _ _ => exact untold.congr run
  | fails absent => exact .of_absent absent
  | begins _ _ => exact (follow_comesTo Run.IsUnended.begun _).tellsNoEnd.settle
  | wakes asleep => exact (wake_comesTo (untold _ _ asleep nofun) _).tellsNoEnd.settle
  | closes _ =>
      refine TellsNoEnd.settle ?_
      intro _ _ present stopped
      cases present
      exact absurd rfl stopped
  | stops _ => exact untold.congr rfl
  | holds _ => exact TellsNoEnd.settle (untold.congr rfl)

/-- No run is left but one that fails. -/
def IsFailing (scene : Scene) : Prop :=
  ∀ run phase, scene.session.run = some (run, phase) →
    ∃ cause, phase.outcome? = some (.error cause)

theorem EndsWith.isFailing {cause : Failure} (ends : scene.EndsWith (.error cause)) :
    scene.IsFailing := by
  intro run phase present
  cases ends with
  | ended absent _ _ => cases absent.symm.trans present
  | ending other fixed =>
      cases other.symm.trans present
      exact ⟨cause, fixed⟩

theorem IsFailing.unstopped (failing : scene.IsFailing) (run : Run) :
    scene.session.run ≠ some (run, .closing (.ok ())) := by
  intro stopped
  rcases failing run _ stopped with ⟨cause, fixed⟩
  cases fixed

theorem IsFailing.take (failing : scene.IsFailing) (untold : scene.TellsNoEnd)
    {step : SessionStep} (noStart : step ≠ .start) :
    scene.HearsNoEnd (scene.take step).2 := by
  cases step with
  | start => exact absurd rfl noStart
  | stop =>
      rw [Scene.take, stop]
      split
      · exact .of_heard rfl
      split
      · next asleep =>
          rcases failing _ _ asleep with ⟨cause, fixed⟩
          cases fixed
      · exact .of_heard rfl
      · exact .of_heard rfl
      · exact .of_heard rfl
  | join =>
      rw [Scene.take, join]
      split <;> exact .of_heard rfl
  | file step =>
      rw [Scene.take, takeFileStep]
      split <;> exact .of_heard rfl
  | notice change =>
      rw [Scene.take, notice]
      split
      · next asleep =>
          rcases failing _ _ asleep with ⟨cause, fixed⟩
          cases fixed
      · exact .of_heard rfl
  | reply reply => exact .of_heard rfl
  | hold => exact untold.hears_setHolding failing.unstopped true
  | release => exact untold.hears_setHolding failing.unstopped false

theorem hearsNoEnd_takeAll {cause : Failure}
    (fails : scene.EndsWith (.error cause) ∨ scene.IsAsked) (untold : scene.TellsNoEnd)
    {steps : List SessionStep} (noStart : .start ∉ steps) :
    scene.HearsNoEnd (scene.takeAll steps) := by
  induction steps generalizing scene with
  | nil => exact .of_heard rfl
  | cons step steps induction =>
      rw [List.mem_cons, not_or] at noStart
      have other := Ne.symm noStart.1
      have untoldLater := (scene.take_moves step).tellsNoEnd untold
      have failing : scene.IsFailing := by
        rcases fails with ends | asked
        · exact ends.isFailing
        · exact fun _ _ present => nomatch asked.absent.symm.trans present
      have failsLater : (scene.take step).2.EndsWith (.error cause) ∨
          (scene.take step).2.IsAsked := by
        rcases fails with ends | asked
        · rcases ends.take other with ⟨_, _, asked⟩ | ⟨_, goesOn⟩
          · exact .inr asked
          · exact .inl goesOn
        · exact .inr (asked.take other).2
      exact (failing.take untold other).trans (induction failsLater untoldLater noStart.2)

end

/-! ## Runs that fail -/

section

variable {scene : Scene} {step : SessionStep}

def opensLog (scene : Scene) : SessionStep → Bool
  | .start => scene.session.run.isNone && scene.log.isOk
  | .notice change => scene.isAsleep && change.resumes scene.session.settings.file
  | _ => false

theorem opensLog_of_failure? {cause : Failure} (fails : scene.failure? step = some cause) :
    scene.opensLog step = true := by
  cases step with
  | start =>
      unfold failure? at fails
      rcases absent : scene.session.run with _ | run
      · rcases opened : scene.log with error | entry
        · rw [absent, opened] at fails
          cases fails
        · rw [opensLog, absent, opened]
          rfl
      · rw [absent] at fails
        cases fails
  | notice change =>
      unfold failure? at fails
      dsimp only at fails
      rw [opensLog]
      split at fails
      · next wakes => exact wakes
      · cases fails
  | _ => cases fails

theorem exists_comesTo (settled : scene.IsSettled) (untold : scene.TellsNoEnd)
    (opens : scene.opensLog step = true) :
    ∃ after : Scene, (scene.take step).2 = after.settle ∧ after.ComesTo (scene.failure? step) ∧
      after.consumer = scene.consumer := by
  cases step with
  | start =>
      rw [opensLog, Bool.and_eq_true, Option.isNone_iff_eq_none] at opens
      rcases present : scene.log with error | entry
      · rw [present] at opens
        cases opens.2
      refine ⟨scene.renewed.follow beginRun entry, start_begins settled opens.1 present, ?_,
        (follow_surrounds _ _ _).consumer⟩
      have around : scene.Around scene.renewed := ⟨rfl, rfl, rfl, rfl⟩
      have failure : scene.failure? .start =
          scene.renewed.openedFailure? beginRun.reader.offset entry := by
        unfold failure?
        rw [opens.1, present]
        cases entry with
        | directory => rfl
        | file contents => exact (around.refusal?_eq _ _).symm
      rw [failure]
      exact follow_comesTo Run.IsUnended.begun entry
  | notice change =>
      rw [opensLog, Bool.and_eq_true, isAsleep_iff] at opens
      rcases opens with ⟨⟨run, token, asleep⟩, resumes⟩
      refine ⟨scene.wake run token, notice_wakes resumes asleep, ?_,
        (wake_surrounds _ _ _).consumer⟩
      have failure : scene.failure? (.notice change) =
          scene.wakeFailure? run.reader.offset := by
        unfold failure?
        dsimp only
        rw [isAsleep_iff.mpr ⟨run, token, asleep⟩, resumes, offset_eq asleep]
        rfl
      rw [failure]
      exact wake_comesTo (untold run _ asleep nofun) token
  | _ => cases opens

theorem sleepsOn_of_closed (settled : scene.IsSettled) (untold : scene.TellsNoEnd)
    (asleep : scene.isAsleep = true) (closed : scene.opensLog step = false)
    (noStop : step ≠ .stop) :
    (scene.take step).2.isAsleep = true ∧ scene.HearsNoEnd (scene.take step).2 := by
  rcases isAsleep_iff.mp asleep with ⟨run, token, present⟩
  have unstopped : ∀ other, scene.session.run ≠ some (other, .closing (.ok ())) :=
    fun _ stopped => nomatch present.symm.trans stopped
  have held (holdsBack : Bool) : (scene.setHolding holdsBack).isAsleep = true := by
    rw [setHolding, isAsleep, settle_fate]
    exact asleep
  cases step with
  | start =>
      rw [take, start, if_pos (settled.asleep run token present)]
      exact ⟨asleep, .of_heard rfl⟩
  | stop => exact absurd rfl noStop
  | join =>
      rw [take, join, present]
      exact ⟨asleep, .of_heard rfl⟩
  | file step =>
      rw [take, takeFileStep]
      split <;> exact ⟨asleep, .of_heard rfl⟩
  | notice change =>
      rw [opensLog] at closed
      rw [take, notice_eq_self (by simp [closed])]
      exact ⟨asleep, .of_heard rfl⟩
  | reply reply => exact ⟨asleep, .of_heard rfl⟩
  | hold => exact ⟨held true, untold.hears_setHolding unstopped true⟩
  | release => exact ⟨held false, untold.hears_setHolding unstopped false⟩

/-- If it fails, a reply refuses it a watch, or its log cannot be read, and not because it
is gone. -/
def IsCaused (scene : Scene) (cause : Failure) : Prop :=
  .refuse cause ∈ scene.replies ∨ .refuseAtOnce cause ∈ scene.replies ∨
    (∃ error, scene.log = .error error ∧ error ≠ .notFound ∧ cause = .file error.message) ∨
    scene.log = .ok .directory ∧ cause = .file FileError.isDirectory.message

private theorem mem_of_refusal? {offset : Nat} {replies : List WatchReply} {cause : Failure}
    (refused : scene.refusal? offset replies = some cause) :
    .refuse cause ∈ replies ∨ .refuseAtOnce cause ∈ replies := by
  induction replies generalizing scene offset with
  | nil => cases refused
  | cons reply replies induction =>
      cases reply with
      | refuse other =>
          cases refused
          exact .inl List.mem_cons_self
      | refuseAtOnce other =>
          cases refused
          exact .inr List.mem_cons_self
      | accept landed =>
          rw [refusal?_accept] at refused
          split at refused
          · split at refused
            · exact (induction refused).imp (List.mem_cons_of_mem _) (List.mem_cons_of_mem _)
            · cases refused
          · cases refused

private theorem isCaused_of_openedFailure? {offset : Nat} {entry : FileEntry} {cause : Failure}
    (present : scene.log = .ok entry) (fails : scene.openedFailure? offset entry = some cause) :
    scene.IsCaused cause := by
  cases entry with
  | directory =>
      cases fails
      exact .inr (.inr (.inr ⟨present, rfl⟩))
  | file contents => exact (mem_of_refusal? fails).imp id .inl

theorem isCaused_of_failure? {cause : Failure} (fails : scene.failure? step = some cause) :
    scene.IsCaused cause := by
  have opens := opensLog_of_failure? fails
  unfold failure? at fails
  cases step with
  | start =>
      dsimp only at fails
      split at fails
      · next present => exact isCaused_of_openedFailure? present fails
      · cases fails
  | notice change =>
      rw [opensLog] at opens
      dsimp only at fails
      rw [if_pos opens] at fails
      unfold wakeFailure? at fails
      split at fails
      · next present => exact isCaused_of_openedFailure? present fails
      · exact (mem_of_refusal? fails).imp id .inl
      · next error notGone missing =>
          cases fails
          exact .inr (.inr (.inl ⟨error, missing, notGone, rfl⟩))
  | _ => cases fails

theorem fails_of_failure? (settled : scene.IsSettled) (untold : scene.TellsNoEnd)
    {cause : Failure} (fails : scene.failure? step = some cause) :
    (scene.take step).2.EndsWith (.error cause) ∧ scene.HearsNoEnd (scene.take step).2 := by
  rcases exists_comesTo settled untold (opensLog_of_failure? fails) with
    ⟨after, taken, comes, consumer⟩
  rw [fails] at comes
  have untoldAfter := comes.tellsNoEnd
  have heard : scene.HearsNoEnd after := .of_heard (by rw [consumer])
  rw [taken]
  cases comes with
  | @fails run phase _ present fixed _ =>
      refine ⟨EndsWith.settle (.ending present fixed), heard.trans ?_⟩
      refine untoldAfter.hears_settle ?_
      intro other stopped
      cases present.symm.trans stopped
      cases fixed

theorem sleeps_of_opensLog (settled : scene.IsSettled) (untold : scene.TellsNoEnd)
    (opens : scene.opensLog step = true) (goesOn : scene.failure? step = none) :
    (scene.take step).2.isAsleep = true ∧ scene.HearsNoEnd (scene.take step).2 := by
  rcases exists_comesTo settled untold opens with ⟨after, taken, comes, consumer⟩
  rw [goesOn] at comes
  have untoldAfter := comes.tellsNoEnd
  have heard : scene.HearsNoEnd after := .of_heard (by rw [consumer])
  rw [taken]
  cases comes with
  | @sleeps run token present _ =>
      refine ⟨?_, heard.trans (untoldAfter.hears_settle ?_)⟩
      · rw [isAsleep, settle_fate]
        exact isAsleep_iff.mpr ⟨run, token, present⟩
      · intro other stopped
        cases present.symm.trans stopped

private theorem endsWith_stop (settled : scene.IsSettled) (asleep : scene.isAsleep = true) :
    scene.stop.2.EndsWith (.ok ()) := by
  rcases isAsleep_iff.mp asleep with ⟨run, token, present⟩
  rw [stop_closes settled present]
  exact EndsWith.settle (.ending rfl rfl)

end

/-- A run that has begun goes on until it is stopped or fails. It fails only because a
watch is refused, or because its log is a directory or cannot be opened, but not because
the log is gone or a chunk is rejected. A failure is told once, by the first join that
returns before another start, and no end of the run is told at all. Of a run that is
stopped all joins tell success. -/
theorem failures_tell_once {scene : Scene} (isNew : scene.IsNew) (history : List SessionStep)
    (step : SessionStep) :
    let reached := scene.takeAll history
    let after := (reached.take step).2
    (∀ cause, reached.failure? step = some cause →
      after.TellsOnce (.error cause) ∧ reached.IsCaused cause ∧
      ∀ steps, .start ∉ steps → reached.HearsNoEnd (after.takeAll steps)) ∧
    (reached.isAsleep → step = .stop → after.TellsOnce (.ok ())) ∧
    (reached.failure? step = none → (reached.isAsleep ∧ step ≠ .stop) ∨ reached.opensLog step →
      after.isAsleep ∧ reached.HearsNoEnd after) ∧
    (∀ reader : Reader, ∀ contents, (reader.readOn reached.now contents).fault = none) ∧
    ∀ buffer : List UInt8, buffer.length = chunkSize → ∀ unread : FileContents,
      (unread.take chunkSize).length ≤ chunkSize ∧
        (Reader.fill buffer (unread.take chunkSize)).length = chunkSize := by
  intro reached after
  have settled : reached.IsSettled := takeAll_isSettled isNew.isSettled history
  have untold : reached.TellsNoEnd :=
    takeAll_induction (fun untold step => (take_moves _ step).tellsNoEnd untold)
      (.of_absent isNew.absent) history
  have orderly : after.IsOrderly :=
    take_isOrderly (takeAll_induction take_isOrderly isNew.isOrderly history) step
  have quiet : after.IsQuiet :=
    take_isQuiet (takeAll_induction take_isQuiet isNew.isQuiet history) step
  refine ⟨?_, ?_, ?_, ?_, fun _ => Reader.length_fill⟩
  · intro cause fails
    rcases fails_of_failure? settled untold fails with ⟨ends, heard⟩
    refine ⟨ends.tellsOnce orderly quiet, isCaused_of_failure? fails, ?_⟩
    intro steps noStart
    exact heard.trans
      (hearsNoEnd_takeAll (.inl ends) ((take_moves _ step).tellsNoEnd untold) noStart)
  · rintro asleep rfl
    exact (endsWith_stop settled asleep).tellsOnce orderly quiet
  · intro goesOn sleepsOrOpens
    cases opens : reached.opensLog step with
    | true => exact sleeps_of_opensLog settled untold opens goesOn
    | false =>
        rcases sleepsOrOpens with ⟨asleep, noStop⟩ | opened
        · exact sleepsOn_of_closed settled untold asleep opens noStop
        · cases opens.symm.trans opened
  · exact fun reader contents => reader.fault_readOn reached.now contents

/-- A watch that is refused behind a callback that does not return: a join waits, and so
does a stop. A run that is woken although its log is gone sleeps on. -/
theorem failures_tell_once_held :
    let path := unstarted.session.settings.path
    let tell : SessionStep := .notice { kind := .modified, file := "gps.nmea" }
    let cause : Failure := .watch "limit reached"
    let history : List SessionStep := [
      .file (.append path [startMarker, 66, star, 52, 50]), .start, .file (.remove path), tell,
      .file (.append path (List.replicate 5 10 ++ [startMarker, 66, star, 52, 50])),
      .reply (.refuse cause), .hold]
    let reached := unstarted.takeAll history
    let after := (reached.take tell).2
    unstarted.IsNew ∧ reached.failure? tell = some cause ∧ after.holdsCallback = true ∧
      (after.takeAll [.join, .stop, .release]).session.state = .stopped ∧
      after.TellsOnce (.error cause) := by
  intro path tell cause history reached after
  have isNew : unstarted.IsNew := ⟨rfl, rfl⟩
  have fails : reached.failure? tell = some cause := by
    decide +kernel
  have told := failures_tell_once isNew history tell
  exact ⟨isNew, fails, by decide +kernel, by decide +kernel, (told.1 cause fails).1⟩

end Scene

end ReceiverLog
