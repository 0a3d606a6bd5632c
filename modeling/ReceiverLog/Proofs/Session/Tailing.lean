import ReceiverLog.Proofs.Session.Bracketing
import ReceiverLog.Text.Bytes

namespace ReceiverLog

/-! A session that follows a growing log. However the log grows, and whenever
that is noticed, what is told is what decoding the whole log at once tells. -/

/-- A step that may be taken while a log only grows and is followed. -/
def SessionStep.Tails (path : String) : SessionStep → Prop
  | .file (.append grown _) => grown = path
  | .join => True
  | .notice _ => True
  | .reply _ => True
  | .hold => True
  | .release => True
  | _ => False

/-- A notice that lets a sleeping run read on. -/
def SessionStep.Resumes (file : String) (step : SessionStep) : Prop :=
  ∃ change, step = .notice change ∧ change.resumes file = true

def SessionStep.Appends (step : SessionStep) : Prop :=
  ∃ path bytes, step = .file (.append path bytes)

/-- Every append is followed, not always at once, by a notice that lets the run
read on. -/
def Followed (file : String) : List SessionStep → Prop
  | [] => True
  | step :: steps =>
      (step.Appends → ∃ later ∈ steps, later.Resumes file) ∧ Followed file steps

namespace Scene

/-- If the run still sleeps, what it has read is so much of the log. -/
def HasRead (scene : Scene) (extent : List UInt8 → List UInt8 → Prop) (record : RunRecord) :
    Prop :=
  scene.isAsleep = true → ∃ contents, scene.log = .ok (.file contents) ∧
    extent record.consumed contents.toList

def HasReadPart (scene : Scene) (record : RunRecord) : Prop :=
  scene.HasRead (· <+: ·) record

def HasReadAll (scene : Scene) (record : RunRecord) : Prop :=
  scene.HasRead (· = ·) record

theorem HasReadAll.part {scene : Scene} {record : RunRecord} (all : scene.HasReadAll record) :
    scene.HasReadPart record := by
  intro asleep
  rcases all asleep with ⟨contents, present, whole⟩
  exact ⟨contents, present, whole ▸ List.prefix_refl _⟩

theorem HasRead.congr {scene after : Scene} {extent : List UInt8 → List UInt8 → Prop}
    {record : RunRecord} (read : scene.HasRead extent record)
    (asleep : after.isAsleep = scene.isAsleep) (log : after.log = scene.log) :
    after.HasRead extent record := by
  rw [HasRead]
  rw [asleep, log]
  exact read

theorem settle_isAsleep (scene : Scene) : scene.settle.isAsleep = scene.isAsleep := by
  rw [isAsleep, settle_fate]
  rfl

section

variable {scene : Scene} {record : RunRecord}

/-! ## One step -/

theorem start_hasReadAll (sound : scene.files.IsSound) (settled : scene.IsSettled)
    (absent : scene.session.run = none) {initial : FileContents}
    (present : scene.log = .ok (.file initial)) :
    ∃ record, scene.note [] .start = [record] ∧ scene.start.2.HasReadAll record := by
  have begins : (scene.session.run.isNone && scene.log.isOk) = true := by
    rw [absent, present]
    rfl
  refine ⟨_, if_pos begins, ?_⟩
  intro _
  have renews : scene.Surrounds scene.renewed := .of_files_eq rfl rfl rfl rfl rfl
  have around := renews.trans (follow_surrounds scene.renewed beginRun (.file initial))
  rcases around.grows sound initial present with ⟨contents, grown, _⟩
  have after : scene.start.2.log = .ok (.file contents) := by
    rw [start_begins settled absent present, settle_log]
    exact grown
  exact ⟨contents, after, (readable_of_file after 0).trans List.drop_zero⟩

theorem notice_hasReadAll (sound : scene.files.IsSound) {before : List Event}
    (recounts : scene.Recounts before [record]) (part : scene.HasReadPart record)
    {change : Change} (resumes : change.resumes scene.session.settings.file = true) :
    ∃ next, scene.note [record] (.notice change) = [next] ∧
      (scene.notice change).2.HasReadAll next := by
  by_cases asleep : scene.isAsleep = true
  · have wakes : (scene.isAsleep && change.resumes scene.session.settings.file) = true := by
      rw [asleep, resumes]
      rfl
    refine ⟨_, if_pos wakes, ?_⟩
    intro _
    -- The offset is where the part that has been read ends, so the rest is read.
    rcases isAsleep_iff.mp asleep with ⟨run, token, present⟩
    rcases part asleep with ⟨contents, there, consumed⟩
    rcases recounts.exists_latest sound present with ⟨_, _, same, _, reader⟩
    cases same
    have offset : scene.session.offset = record.consumed.length := by
      rw [offset_eq present, reader, Reading.offset_of]
    rcases (scene.wake_surrounds run token).grows sound contents there
      with ⟨later, grown, isPrefix⟩
    have after : (scene.notice change).2.log = .ok (.file later) := by
      rw [notice_wakes resumes present, settle_log]
      exact grown
    refine ⟨later, after, ?_⟩
    rw [offset]
    rcases consumed.trans isPrefix with ⟨rest, whole⟩
    have read : (scene.notice change).2.readable record.consumed.length = rest := by
      rw [readable_of_file after, ← whole, List.drop_left]
    exact (congrArg (record.consumed ++ ·) read).trans whole
  · have nothing : ¬(scene.isAsleep && change.resumes scene.session.settings.file) = true := by
      rw [resumes, Bool.and_true]
      exact asleep
    refine ⟨record, if_neg nothing, ?_⟩
    rw [notice_eq_self nothing]
    exact fun slept => absurd slept asleep

theorem append_hasReadPart (sound : scene.files.IsSound) (part : scene.HasReadPart record)
    (bytes : List UInt8) :
    (scene.takeFileStep (.append scene.session.settings.path bytes)).2.HasReadPart record := by
  rw [takeFileStep]
  split
  · next files applied =>
      intro asleep
      rcases part asleep with ⟨contents, there, isPrefix⟩
      rcases FileStep.apply_append sound there bytes with ⟨after, afterApplied, found⟩
      cases applied.symm.trans afterApplied
      refine ⟨contents.append bytes, found, isPrefix.trans ?_⟩
      rw [FileContents.toList_append]
      exact List.prefix_append _ _
  · exact part

theorem join_quiet (scene : Scene) :
    scene.join.2.isAsleep = scene.isAsleep ∧ scene.join.2.log = scene.log := by
  rw [join]
  split <;> exact ⟨rfl, rfl⟩

theorem setHolding_quiet (scene : Scene) (holdsBack : Bool) :
    (scene.setHolding holdsBack).isAsleep = scene.isAsleep ∧
      (scene.setHolding holdsBack).log = scene.log := by
  rw [setHolding]
  rw [settle_isAsleep, settle_log]
  exact ⟨rfl, rfl⟩

end

/-! ## One step after the other -/

/-- A session with one run so far, before steps that only let its log grow and
be read. Either the run has read the whole log, or a notice is still to come. -/
structure Following (scene : Scene) (before : List Event) (record : RunRecord)
    (steps : List SessionStep) : Prop where
  sound : scene.files.IsSound
  settled : scene.IsSettled
  recounts : scene.Recounts before [record]
  tails : ∀ step ∈ steps, step.Tails scene.session.settings.path
  followed : Followed scene.session.settings.file steps
  part : scene.HasReadPart record
  reaches : scene.HasReadAll record ∨ ∃ step ∈ steps, step.Resumes scene.session.settings.file

namespace Following

variable {scene : Scene} {before : List Event} {record : RunRecord} {step : SessionStep}
  {steps : List SessionStep}

theorem next (following : scene.Following before record (step :: steps)) {next : RunRecord}
    (noted : scene.note [record] step = [next])
    (part : (scene.take step).2.HasReadPart next)
    (reaches : (scene.take step).2.HasReadAll next ∨
      ∃ step ∈ steps, step.Resumes scene.session.settings.file) :
    (scene.take step).2.Following before next steps := by
  have keeps := scene.take_keeps step
  have recounts := take_recounts following.sound following.settled following.recounts step
  refine ⟨keeps.sound following.sound, take_isSettled following.settled step, noted ▸ recounts,
    ?_, ?_, part, ?_⟩
  · rw [keeps.settings]
    exact fun step member => following.tails step (List.mem_cons_of_mem _ member)
  · rw [keeps.settings]
    exact following.followed.2
  · rw [keeps.settings]
    exact reaches

theorem next_of_quiet (following : scene.Following before record (step :: steps))
    (noted : scene.note [record] step = [record])
    (asleep : (scene.take step).2.isAsleep = scene.isAsleep)
    (log : (scene.take step).2.log = scene.log)
    (idle : ¬step.Resumes scene.session.settings.file) :
    (scene.take step).2.Following before record steps := by
  refine following.next noted (following.part.congr asleep log) ?_
  rcases following.reaches with all | ⟨other, member, resumes⟩
  · exact .inl (all.congr asleep log)
  · rcases List.mem_cons.mp member with rfl | member
    · exact absurd resumes idle
    · exact .inr ⟨other, member, resumes⟩

private theorem exists_next (following : scene.Following before record (step :: steps)) :
    ∃ next, (scene.take step).2.Following before next steps := by
  have tails := following.tails step List.mem_cons_self
  cases step with
  | start => exact tails.elim
  | stop => exact tails.elim
  | join =>
      rcases scene.join_quiet with ⟨asleep, log⟩
      exact ⟨record, following.next_of_quiet rfl asleep log nofun⟩
  | file step =>
      cases step with
      | append path bytes =>
          cases tails
          have part := append_hasReadPart following.sound following.part bytes
          have resumed := following.followed.1 ⟨_, bytes, rfl⟩
          exact ⟨record, following.next rfl part (.inr resumed)⟩
      | _ => exact tails.elim
  | notice change =>
      by_cases resumes : change.resumes scene.session.settings.file = true
      · rcases notice_hasReadAll following.sound following.recounts following.part resumes
          with ⟨next, noted, all⟩
        exact ⟨next, following.next noted all.part (.inl all)⟩
      · have nothing : ¬(scene.isAsleep && change.resumes scene.session.settings.file) = true :=
          fun both => resumes (Bool.and_eq_true_iff.mp both).2
        have noted : scene.note [record] (.notice change) = [record] := if_neg nothing
        have same : (scene.take (.notice change)).2 = scene := notice_eq_self nothing
        refine ⟨record, following.next_of_quiet noted ?_ ?_ ?_⟩
        · rw [same]
        · rw [same]
        · rintro ⟨other, equal, otherResumes⟩
          cases equal
          exact resumes otherResumes
  | reply reply => exact ⟨record, following.next_of_quiet rfl rfl rfl nofun⟩
  | hold =>
      rcases scene.setHolding_quiet true with ⟨asleep, log⟩
      exact ⟨record, following.next_of_quiet rfl asleep log nofun⟩
  | release =>
      rcases scene.setHolding_quiet false with ⟨asleep, log⟩
      exact ⟨record, following.next_of_quiet rfl asleep log nofun⟩

theorem exists_final (following : scene.Following before record steps) :
    ∃ final, (scene.takeAll steps).Recounts before [final] ∧
      (scene.takeAll steps).HasReadAll final := by
  induction steps generalizing scene record with
  | nil =>
      rcases following.reaches with all | ⟨step, member, _⟩
      · exact ⟨record, following.recounts, all⟩
      · cases member
  | cons step steps induction =>
      rcases following.exists_next with ⟨next, goesOn⟩
      exact induction goesOn

end Following

theorem start_following {scene : Scene} (sound : scene.files.IsSound)
    (absent : scene.session.run = none) (idle : scene.session.state.isRunning = false)
    {initial : FileContents} (present : scene.log = .ok (.file initial))
    {steps : List SessionStep}
    (tails : ∀ step ∈ steps, step.Tails scene.session.settings.path)
    (followed : Followed scene.session.settings.file steps) :
    ∃ record, (scene.take .start).2.Following scene.consumer.heard record steps := by
  have settled : scene.IsSettled := .of_idle absent idle
  have keeps := scene.take_keeps .start
  have nothingYet : scene.Recounts scene.consumer.heard [] := ⟨absent, rfl⟩
  have recounts := take_recounts sound settled nothingYet .start
  rcases start_hasReadAll sound settled absent present with ⟨record, noted, all⟩
  rw [noted] at recounts
  refine ⟨record, keeps.sound sound, take_isSettled settled .start, recounts, ?_, ?_,
    HasReadAll.part all, .inl all⟩
  · rw [keeps.settings]
    exact tails
  · rw [keeps.settings]
    exact followed

/-- A sleeping run that has read the whole log has told, when nothing is held
back, what decoding the log at once tells. -/
theorem decoded_of_hasReadAll {scene : Scene} {before : List Event} {record : RunRecord}
    (sound : scene.files.IsSound) (settled : scene.IsSettled)
    (recounts : scene.Recounts before [record]) (all : scene.HasReadAll record)
    (released : scene.consumer.holdsBack = false)
    (running : scene.session.state.isRunning = true) :
    ∃ contents outcomes decoder, scene.log = .ok (.file contents) ∧
      Decoder.fresh.feed contents.toList contents.size = .ok (outcomes, decoder) ∧
      scene.consumer.heard = before ++
        (.status .begin ::
          (Reader.deliveries scene.now []
            (outcomes.filterMap (·.accepted?))).flatten).filter scene.consumer.hears ∧
      scene.session.offset = contents.size ∧
      scene.session.malformed = outcomes.countP (·.isMalformed) := by
  rcases found : scene.session.run with _ | ⟨run, phase⟩
  · cases (settled.idle found).symm.trans running
  rcases settled.released released run phase found with ⟨complete, token, rfl⟩
  rcases all (isAsleep_iff.mpr ⟨run, token, found⟩) with ⟨contents, log, whole⟩
  rcases recounts with ⟨earlier, told, narrates⟩
  cases told
  rcases narrates.going found sound with ⟨done, going, _, heard⟩
  have planned := going.run.planned
  rw [complete, List.append_nil] at planned
  rw [planned, Run.flatMap_body_plan, whole] at heard
  refine ⟨contents, (Decoder.fresh.decode contents.toList).1,
    (Decoder.fresh.decode contents.toList).2, log, ?_, ?_, ?_, ?_⟩
  · rw [← contents.length_toList, Decoder.feed_accepted (Nat.le_refl _), List.take_length]
  · rw [heard]
    rfl
  · rw [offset_eq found, going.run.offset, whole, contents.length_toList]
  · rw [going.malformed, whole]
    rfl

/-- Following a growing log tells what decoding all of it at once tells: when the
run still goes on, nothing is held back, and every append has been followed by a
notice, the consumer has heard the beginning and then what is delivered of each
sentence that one decoder accepts when the whole log is fed to it. -/
theorem heard_eq_decoded {scene : Scene} {initial : FileContents} (sound : scene.files.IsSound)
    (absent : scene.session.run = none) (idle : scene.session.state.isRunning = false)
    (present : scene.log = .ok (.file initial)) {steps : List SessionStep}
    (tails : ∀ step ∈ steps, step.Tails scene.session.settings.path)
    (followed : Followed scene.session.settings.file steps)
    (released : (scene.takeAll (.start :: steps)).consumer.holdsBack = false)
    (running : (scene.takeAll (.start :: steps)).session.state.isRunning = true) :
    let final := scene.takeAll (.start :: steps)
    ∃ contents outcomes decoder, final.log = .ok (.file contents) ∧
      Decoder.fresh.feed contents.toList contents.size = .ok (outcomes, decoder) ∧
      final.consumer.heard = scene.consumer.heard ++
        (.status .begin ::
          (Reader.deliveries scene.now []
            (outcomes.filterMap (·.accepted?))).flatten).filter scene.consumer.hears ∧
      final.session.offset = contents.size ∧
      final.session.malformed = outcomes.countP (·.isMalformed) := by
  have keeps := scene.takeAll_keeps (.start :: steps)
  have settled : IsSettled _ := takeAll_isSettled (.of_idle absent idle) (.start :: steps)
  rcases start_following sound absent idle present tails followed with ⟨_, following⟩
  rcases following.exists_final with ⟨record, recounts, all⟩
  have decoded := decoded_of_hasReadAll (keeps.sound sound) settled recounts all released running
  rw [keeps.now, keeps.hears] at decoded
  exact decoded

/-- Two sentences that are cut in the middle of a number, of separators and of check digits.
One piece lands in the log while a watch is being registered. -/
theorem heard_eq_decoded_cut :
    let append (text : String) : SessionStep :=
      .file (.append unstarted.session.settings.path (Text.utf8 text))
    let modified : SessionStep := .notice { kind := .modified, file := "gps.nmea" }
    let steps : List SessionStep := [
      append "$GPGGA,,49", .reply (.accept (some (Text.utf8 "30.0,N,,,"))), modified,
      append ",,,,,,,,*0", modified, append "8$GPGSV,1,1,00*7", append "9\r\n", modified]
    let final := unstarted.takeAll (.start :: steps)
    (∀ step ∈ steps, step.Tails unstarted.session.settings.path) ∧
      Followed unstarted.session.settings.file steps ∧
      final.consumer.heard = [
        .status .begin,
        .location { fix := { Fix.unknown with latitude := 49.5 }, timestamp := 0 },
        .raw { timestamp := 0, text := "$GPGGA,,4930.0,N,,,,,,,,,,,*08", length := 30 },
        .satellites [],
        .raw { timestamp := 0, text := "$GPGSV,1,1,00*79", length := 16 }] ∧
      final.session.offset = 48 ∧
      ∃ contents outcomes decoder, final.log = .ok (.file contents) ∧
        Decoder.fresh.feed contents.toList contents.size = .ok (outcomes, decoder) ∧
        final.consumer.heard =
          (.status .begin ::
            (Reader.deliveries 0 [] (outcomes.filterMap (·.accepted?))).flatten).filter
              unstarted.consumer.hears ∧
        final.session.offset = contents.size := by
  intro append modified steps final
  have tails : ∀ step ∈ steps, step.Tails unstarted.session.settings.path := by
    simp [steps, append, modified, SessionStep.Tails]
  have resumes : modified.Resumes unstarted.session.settings.file := ⟨_, rfl, by decide +kernel⟩
  have followed : Followed unstarted.session.settings.file steps :=
    ⟨fun _ => ⟨modified, by simp, resumes⟩, nofun, nofun,
      fun _ => ⟨modified, by simp, resumes⟩, nofun, fun _ => ⟨modified, by simp, resumes⟩,
      fun _ => ⟨modified, by simp, resumes⟩, nofun, trivial⟩
  have present : unstarted.log = .ok (.file .empty) := by decide +kernel
  have released : final.consumer.holdsBack = false := by decide +kernel
  have running : final.session.state.isRunning = true := by decide +kernel
  refine ⟨tails, followed, by decide +kernel, by decide +kernel, ?_⟩
  rcases heard_eq_decoded unstarted_isSound rfl rfl present tails followed released running
    with ⟨contents, outcomes, decoder, log, fed, heard, offset, _⟩
  exact ⟨contents, outcomes, decoder, log, fed, heard, offset⟩

end Scene

end ReceiverLog
