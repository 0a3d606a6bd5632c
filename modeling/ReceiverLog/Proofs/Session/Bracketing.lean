import Mathlib.Data.List.Forall2
import ReceiverLog.Proofs.Session.Records
import ReceiverLog.Proofs.Session.Steps
import ReceiverLog.Text.Bytes

namespace ReceiverLog

/-! The events of a session are the blocks of its runs, one after the other. -/

namespace Scene

def isAsleep (scene : Scene) : Bool :=
  scene.fate.isNone

/-! ## Records of runs -/

/-- The records of all runs after a step, the latest run first. A start begins a
run if there is none and the log can be opened. A notice that wakes a run lets it
read what the log then holds beyond its offset. Only a sleeping run can still be
stopped. -/
def note (scene : Scene) (records : List RunRecord) (step : SessionStep) : List RunRecord :=
  let after := (scene.take step).2
  match step with
  | .start =>
      if scene.session.run.isNone && scene.log.isOk then
        { consumed := after.readable 0, ending := after.fate } :: records
      else records
  | .notice change =>
      if scene.isAsleep && change.resumes scene.session.settings.file then
        records.modifyHead fun latest =>
          { consumed := latest.consumed ++ after.readable scene.session.offset
            ending := after.fate }
      else records
  | .stop =>
      if scene.isAsleep then records.modifyHead ({ · with ending := some .stopped })
      else records
  | _ => records

def chronicle (scene : Scene) (records : List RunRecord) : List SessionStep → List RunRecord
  | [] => records
  | step :: steps => (scene.take step).2.chronicle (scene.note records step) steps

/-! ## Blocks -/

/-- Events told by runs that are over, behind those from before. The latest run
comes first. -/
inductive Told (now : Int) (hears : Event → Bool) (before : List Event) :
    List RunRecord → List Event → Prop
  | nothing : Told now hears before [] before
  | block {record : RunRecord} {records : List RunRecord} {heard events : List Event} :
      Told now hears before records heard → record.IsBlock now events →
      Told now hears before (record :: records) (heard ++ events.filter hears)

theorem Told.exists_blocks {now : Int} {hears : Event → Bool} {before heard : List Event}
    {records : List RunRecord} (told : Told now hears before records heard) :
    ∃ blocks, List.Forall₂ (RunRecord.IsBlock now) records.reverse blocks ∧
      heard = before ++ blocks.flatten.filter hears := by
  induction told with
  | nothing => exact ⟨[], .nil, by simp⟩
  | @block record records heard events _ isBlock induction =>
      rcases induction with ⟨blocks, allBlocks, rfl⟩
      refine ⟨blocks ++ [events], ?_, by simp⟩
      rw [List.reverse_cons]
      exact List.rel_append allBlocks (.cons isBlock .nil)

def Recounts (scene : Scene) (before : List Event) : List RunRecord → Prop
  | [] => scene.session.run = none ∧ scene.consumer.heard = before
  | latest :: records => ∃ earlier,
      Told scene.now scene.consumer.hears before records earlier ∧
        scene.Narrates earlier latest

namespace Recounts

variable {scene : Scene} {before : List Event} {records : List RunRecord}

theorem congr {after : Scene} (recounts : scene.Recounts before records)
    (alike : scene.Alike after) : after.Recounts before records := by
  cases records with
  | nil => exact ⟨alike.run.trans recounts.1, alike.heard.trans recounts.2⟩
  | cons latest records =>
      rcases recounts with ⟨earlier, told, narrates⟩
      refine ⟨earlier, ?_, narrates.congr alike⟩
      rw [alike.now, alike.hears]
      exact told

theorem settle (recounts : scene.Recounts before records) :
    scene.settle.Recounts before records := by
  have keeps := scene.settle_keeps
  cases records with
  | nil =>
      have same : scene.settle = scene := by
        rw [Scene.settle, recounts.1]
      rw [same]
      exact recounts
  | cons latest records =>
      rcases recounts with ⟨earlier, told, narrates⟩
      refine ⟨earlier, ?_, settle_narrates narrates⟩
      rw [keeps.now, keeps.hears]
      exact told

theorem told (recounts : scene.Recounts before records) (ended : scene.session.run = none) :
    Told scene.now scene.consumer.hears before records scene.consumer.heard := by
  cases records with
  | nil =>
      rw [recounts.2]
      exact .nothing
  | cons latest records =>
      rcases recounts with ⟨earlier, told, narrates⟩
      cases narrates with
      | telling done tells heard =>
          rcases tells.run with ⟨run, phase, present, _⟩
          cases present.symm.trans ended
      | told events _ block heard =>
          rw [heard]
          exact .block told block

end Recounts

/-! ## One step -/

theorem isAsleep_iff {scene : Scene} :
    scene.isAsleep = true ↔ ∃ run token, scene.session.run = some (run, .asleep token) := by
  rw [isAsleep, fate]
  constructor
  · intro asleep
    split at asleep
    · next run token present => exact ⟨run, token, present⟩
    · cases asleep
  · rintro ⟨run, token, present⟩
    rw [present]
    rfl

theorem settle_log (scene : Scene) : scene.settle.log = scene.log := by
  have keeps := scene.settle_keeps
  rw [log, log, settle_files, keeps.working, keeps.settings]

theorem settle_readable (scene : Scene) (offset : Nat) :
    scene.settle.readable offset = scene.readable offset := by
  unfold readable
  rw [settle_log]

section

variable {scene : Scene} {before : List Event} {records : List RunRecord}

theorem start_opens (idle : scene.session.state.isRunning = false)
    (absent : scene.session.run = none) {entry : FileEntry} (present : scene.log = .ok entry) :
    scene.start = (.done, (scene.renewed.follow beginRun entry).settle) := by
  rw [start, idle, absent]
  dsimp only
  rw [present]
  rfl

theorem start_begins (settled : scene.IsSettled) (absent : scene.session.run = none)
    {entry : FileEntry} (present : scene.log = .ok entry) :
    scene.start.2 = (scene.renewed.follow beginRun entry).settle := by
  rw [start_opens (settled.idle absent) absent present]

theorem start_alike (nothing : (scene.session.run.isNone && scene.log.isOk) = false) :
    scene.Alike scene.start.2 := by
  rw [start]
  split
  · exact .refl scene
  split
  · exact .refl scene
  · next absent =>
      dsimp only
      split
      · exact ⟨rfl, rfl, rfl, rfl, rfl⟩
      · next present =>
          rw [present, Option.not_isSome_iff_eq_none.mp absent] at nothing
          cases nothing

theorem settle_recounts_of_tells {around : Scene} {earlier : List Event}
    {done : List (Task Delivery)} {consumed : List UInt8}
    (told : Told scene.now scene.consumer.hears before records earlier)
    (heard : scene.consumer.heard =
      earlier ++ (done.flatMap (·.body)).filter scene.consumer.hears)
    (surrounds : scene.Surrounds around) (tells : around.Tells done consumed around.fate) :
    around.settle.Recounts before ({ consumed, ending := around.settle.fate } :: records) := by
  have keeps := surrounds.keeps.trans around.settle_keeps
  refine ⟨earlier, ?_, settle_narrates (.telling done ?_ ?_)⟩
  · rw [keeps.now, keeps.hears]
    exact told
  · rw [settle_fate]
    exact tells
  · rw [surrounds.consumer, heard]

theorem start_recounts (sound : scene.files.IsSound) (settled : scene.IsSettled)
    (recounts : scene.Recounts before records) :
    scene.start.2.Recounts before (scene.note records .start) := by
  rw [note]
  dsimp only [take]
  split
  · next begins =>
      rw [Bool.and_eq_true, Option.isNone_iff_eq_none] at begins
      rcases begins with ⟨absent, opens⟩
      rcases present : scene.log with error | entry
      · rw [present] at opens
        cases opens
      rw [start_begins settled absent present, settle_readable]
      have going : scene.renewed.Going beginRun [] [] :=
        ⟨sound, Run.begin_going scene.now, by rw [Reading.of_nil]; rfl⟩
      have renews : scene.Surrounds scene.renewed := .of_files_eq rfl rfl rfl rfl rfl
      exact settle_recounts_of_tells (recounts.told absent) (by simp)
        (renews.trans (follow_surrounds _ _ _)) (follow_tells going present)
  · next nothing => exact recounts.congr (start_alike (Bool.not_eq_true _ ▸ nothing))

theorem notice_wakes {change : Change}
    (resumes : change.resumes scene.session.settings.file = true) {run : Run}
    {token : WatchToken}
    (asleep : scene.session.run = some (run, .asleep token)) :
    (scene.notice change).2 = (scene.wake run token).settle := by
  rw [notice, asleep]
  dsimp only
  rw [if_pos resumes]

theorem notice_eq_self {change : Change}
    (nothing : ¬(scene.isAsleep && change.resumes scene.session.settings.file) = true) :
    (scene.notice change).2 = scene := by
  simp only [notice]
  split
  · next run token asleep =>
      rw [isAsleep_iff.mpr ⟨run, token, asleep⟩, Bool.true_and] at nothing
      rw [if_neg nothing]
  · rfl

theorem offset_eq {run : Run} {phase : RunPhase}
    (present : scene.session.run = some (run, phase)) :
    scene.session.offset = run.reader.offset := by
  rw [Session.offset, present]

theorem notice_recounts (sound : scene.files.IsSound) (change : Change)
    (recounts : scene.Recounts before records) :
    (scene.notice change).2.Recounts before (scene.note records (.notice change)) := by
  rw [note]
  dsimp only [take]
  split
  · next wakes =>
      rw [Bool.and_eq_true, isAsleep_iff] at wakes
      rcases wakes with ⟨⟨run, token, present⟩, resumes⟩
      rw [notice_wakes resumes present, settle_readable, offset_eq present]
      cases records with
      | nil => cases recounts.1.symm.trans present
      | cons latest records =>
          rcases recounts with ⟨earlier, told, narrates⟩
          rcases narrates.going present sound with ⟨done, going, _, heard⟩
          exact settle_recounts_of_tells told heard (wake_surrounds _ _ _)
            (wake_tells going token)
  · next nothing =>
      rw [notice_eq_self nothing]
      exact recounts

def stopping (scene : Scene) (run : Run) (token : WatchToken) : Scene :=
  let rest := Task.discard (run.pending.drop 1) (some [Event.status .finish])
  { scene with registry := scene.registry.unregister token }.setRun .stopping
    { run with pending := run.pending.take 1 ++ rest } (.closing (.ok ()))

theorem stop_closes (settled : scene.IsSettled) {run : Run} {token : WatchToken}
    (present : scene.session.run = some (run, .asleep token)) :
    scene.stop.2 = (scene.stopping run token).settle := by
  rw [stop, settled.asleep run token present, present]
  rfl

theorem stop_alike (nothing : ¬scene.isAsleep = true) : scene.Alike scene.stop.2 := by
  rw [stop]
  split
  · exact .refl scene
  split
  · next run token present => exact absurd (isAsleep_iff.mpr ⟨run, token, present⟩) nothing
  · exact .refl scene
  · exact ⟨rfl, rfl, rfl, rfl, rfl⟩
  · exact .refl scene

theorem stop_recounts (sound : scene.files.IsSound) (settled : scene.IsSettled)
    (recounts : scene.Recounts before records) :
    scene.stop.2.Recounts before (scene.note records .stop) := by
  simp only [note]
  split
  · next asleep =>
      rcases isAsleep_iff.mp asleep with ⟨run, token, present⟩
      rw [stop_closes settled present]
      cases records with
      | nil => cases recounts.1.symm.trans present
      | cons latest records =>
          rcases recounts with ⟨earlier, told, narrates⟩
          rcases narrates.going present sound with ⟨done, going, _, heard⟩
          have tells : (scene.stopping run token).Tells done latest.consumed (some .stopped) :=
            ⟨⟨_, _, rfl, going.run.stopped⟩, going.malformed⟩
          exact Recounts.settle ⟨earlier, told, .telling done tells heard⟩
  · next nothing => exact recounts.congr (stop_alike nothing)

theorem join_recounts (recounts : scene.Recounts before records) :
    scene.join.2.Recounts before records := by
  rw [join]
  split
  · exact recounts
  · exact recounts.congr ⟨rfl, rfl, rfl, rfl, rfl⟩
  · exact recounts

theorem setHolding_recounts (recounts : scene.Recounts before records) (holdsBack : Bool) :
    (scene.setHolding holdsBack).Recounts before records := by
  rw [setHolding]
  have alike : scene.Alike { scene with consumer := { scene.consumer with holdsBack } } := by
    exact ⟨rfl, rfl, rfl, Consumer.hears_eq rfl, rfl⟩
  exact (recounts.congr alike).settle

theorem take_recounts (sound : scene.files.IsSound) (settled : scene.IsSettled)
    (recounts : scene.Recounts before records) (step : SessionStep) :
    (scene.take step).2.Recounts before (scene.note records step) := by
  cases step with
  | start => exact start_recounts sound settled recounts
  | stop => exact stop_recounts sound settled recounts
  | join => exact join_recounts recounts
  | file step =>
      simp only [take, takeFileStep]
      split
      · exact recounts.congr ⟨rfl, rfl, rfl, rfl, rfl⟩
      · exact recounts
  | notice change => exact notice_recounts sound change recounts
  | reply reply => exact recounts.congr ⟨rfl, rfl, rfl, rfl, rfl⟩
  | hold => exact setHolding_recounts recounts true
  | release => exact setHolding_recounts recounts false

theorem takeAll_recounts (sound : scene.files.IsSound) (settled : scene.IsSettled)
    (recounts : scene.Recounts before records) (steps : List SessionStep) :
    (scene.takeAll steps).Recounts before (scene.chronicle records steps) := by
  induction steps generalizing scene records with
  | nil => exact recounts
  | cons step steps induction =>
      exact induction ((scene.take_keeps step).sound sound) (take_isSettled settled step)
        (take_recounts sound settled recounts step)

theorem Recounts.exists_blocks (recounts : scene.Recounts before records)
    (settled : scene.IsSettled) (released : scene.consumer.holdsBack = false) :
    ∃ blocks, List.Forall₂ (RunRecord.IsBlock scene.now) records.reverse blocks ∧
      scene.consumer.heard = before ++ blocks.flatten.filter scene.consumer.hears := by
  rcases found : scene.session.run with _ | ⟨run, phase⟩
  · exact (recounts.told found).exists_blocks
  · rcases settled.released released run phase found with ⟨complete, token, rfl⟩
    cases records with
    | nil => cases recounts.1.symm.trans found
    | cons latest records =>
        rcases recounts with ⟨earlier, told, narrates⟩
        cases narrates with
        | told _ ended _ _ => cases found.symm.trans ended
        | telling done tells heard =>
            rcases tells.run with ⟨other, phase, present, otherTells⟩
            cases found.symm.trans present
            rw [heard]
            exact (Told.block told (otherTells.isBlock complete)).exists_blocks

theorem Recounts.exists_latest (recounts : scene.Recounts before records)
    (sound : scene.files.IsSound) {run : Run} {token : WatchToken}
    (asleep : scene.session.run = some (run, .asleep token)) :
    ∃ latest earlier, records = latest :: earlier ∧ latest.ending = none ∧
      run.reader = (Reading.of scene.now latest.consumed).reader := by
  cases records with
  | nil => cases recounts.1.symm.trans asleep
  | cons latest records =>
      rcases recounts with ⟨_, _, narrates⟩
      rcases narrates.going asleep sound with ⟨_, going, unended, _⟩
      exact ⟨latest, records, rfl, unended, going.run.reader⟩

end

/-- Whatever steps are taken, once the consumer holds nothing back it has heard
one block for each run that was begun, in their order. -/
theorem heard_eq_blocks {scene : Scene} (sound : scene.files.IsSound)
    (absent : scene.session.run = none) (idle : scene.session.state.isRunning = false)
    (steps : List SessionStep)
    (released : (scene.takeAll steps).consumer.holdsBack = false) :
    let final := scene.takeAll steps
    let records := scene.chronicle [] steps
    (∃ blocks, List.Forall₂ (RunRecord.IsBlock scene.now) records.reverse blocks ∧
      final.consumer.heard =
        scene.consumer.heard ++ blocks.flatten.filter scene.consumer.hears) ∧
    (∀ record ∈ records, ∀ delivery ∈ (Reading.of scene.now record.consumed).deliveries,
      Reader.IsDelivery delivery) ∧
    (∀ run phase, final.session.run = some (run, phase) →
      ∃ latest earlier, records = latest :: earlier ∧ latest.ending = none ∧
        run.reader = (Reading.of scene.now latest.consumed).reader) ∧
    final.drop = scene.takeAll (steps ++ [.stop, .join]) := by
  intro final records
  have keeps := scene.takeAll_keeps steps
  have settled : final.IsSettled := takeAll_isSettled (.of_idle absent idle) steps
  have nothingYet : scene.Recounts scene.consumer.heard [] := ⟨absent, rfl⟩
  have recounts : final.Recounts scene.consumer.heard records :=
    takeAll_recounts sound (.of_idle absent idle) nothingYet steps
  refine ⟨?_, fun record _ => Reading.of_isDelivery scene.now record.consumed, ?_, ?_⟩
  · have blocks := recounts.exists_blocks settled released
    rw [keeps.now, keeps.hears] at blocks
    exact blocks
  · intro run phase present
    rcases settled.released released run phase present with ⟨_, token, rfl⟩
    have latest := recounts.exists_latest (keeps.sound sound) present
    rw [keeps.now] at latest
    exact latest
  · rw [drop_eq_takeAll]
    simp only [final, takeAll]
    rw [List.foldl_append]

/-- A run that is stopped while the first of three sentences is held back, so that the other
two are dropped; and then a run that goes on, which tells of all three. -/
theorem heard_eq_blocks_restarted :
    let path := unstarted.session.settings.path
    let steps : List SessionStep := [
      .start, .hold, .file (.append path (Text.utf8 "$B*42$C*43$D*44")),
      .notice { kind := .modified, file := "gps.nmea" }, .stop, .release, .start]
    let records := unstarted.chronicle [] steps
    let raw (text : String) : Event := .raw { timestamp := 0, text, length := 5 }
    (unstarted.takeAll steps).consumer.holdsBack = false ∧
      records.map (·.ending) = [none, some .stopped] ∧
      (unstarted.takeAll steps).consumer.heard = [
        .status .begin, raw "$B*42", .status .finish,
        .status .begin, raw "$B*42", raw "$C*43", raw "$D*44"] ∧
      ∃ blocks, List.Forall₂ (RunRecord.IsBlock unstarted.now) records.reverse blocks ∧
        (unstarted.takeAll steps).consumer.heard =
          blocks.flatten.filter unstarted.consumer.hears := by
  intro path steps records raw
  have released : (unstarted.takeAll steps).consumer.holdsBack = false := by decide +kernel
  refine ⟨released, by decide +kernel, by decide +kernel, ?_⟩
  exact (heard_eq_blocks unstarted_isSound rfl rfl _ released).1

end Scene

end ReceiverLog
