import ReceiverLog.Proofs.Session.Bracketing
import ReceiverLog.Proofs.Session.Registrations

namespace ReceiverLog

/-! How far a run has read. It reads in passes, each from where the one before it
ended to the end that the log has by then; a log that is shorter by then, or gone,
gives it nothing. Whatever happens to the log between two passes, no place in it
is read twice, and none is left out. -/

/-- One reading of the log: where it began, and what the log held. -/
structure Pass where
  offset : Nat
  contents : FileContents

namespace Pass

def bytes (pass : Pass) : List UInt8 :=
  pass.contents.toList.drop pass.offset

def positions (pass : Pass) : List Nat :=
  List.range' pass.offset (pass.contents.size - pass.offset)

def reached (pass : Pass) : Nat :=
  max pass.offset pass.contents.size

theorem length_bytes (pass : Pass) : pass.bytes.length = pass.contents.size - pass.offset := by
  rw [bytes, List.length_drop, FileContents.length_toList]

theorem reached_eq (pass : Pass) : pass.reached = pass.offset + pass.bytes.length := by
  rw [length_bytes, reached]
  omega

theorem positions_eq (pass : Pass) :
    pass.positions = List.range' pass.offset pass.bytes.length := by
  rw [positions, length_bytes]

/-- Passes of which each begins where the one before it ended, from one offset to
another. -/
inductive Follow : Nat → List Pass → Nat → Prop
  | none (offset : Nat) : Follow offset [] offset
  | next {pass : Pass} {rest : List Pass} {last : Nat} : Follow pass.reached rest last →
      Follow pass.offset (pass :: rest) last

namespace Follow

variable {first last : Nat} {passes : List Pass}

theorem concat (follow : Follow first passes last) (contents : FileContents) :
    Follow first (passes ++ [{ offset := last, contents }]) (max last contents.size) := by
  induction follow with
  | none offset => exact @next { offset, contents } [] _ (.none _)
  | next _ induction => exact .next induction

theorem positions (follow : Follow first passes last) :
    passes.flatMap (·.positions) = List.range' first (passes.flatMap (·.bytes)).length := by
  induction follow with
  | none offset => rfl
  | @next pass rest last _ induction =>
      rw [List.flatMap_cons, List.flatMap_cons, List.length_append, induction, positions_eq,
        reached_eq, List.range'_append_1]

end Follow

/-- A reader that has read passes, and nothing else, from the beginning of the log. -/
structure Account (now : Int) (passes : List Pass) (reader : Reader) : Prop where
  read : reader = (Reading.of now (passes.flatMap (·.bytes))).reader
  follow : Follow 0 passes reader.offset

namespace Account

variable {now : Int} {passes : List Pass} {reader : Reader}

theorem nothing (now : Int) : Account now [] .fresh where
  read := by
    rw [List.flatMap_nil, Reading.of_nil]
  follow := .none 0

theorem isResting (account : Account now passes reader) : reader.decoder.IsResting := by
  rw [account.read]
  exact Reading.of_isResting now _

theorem offset (account : Account now passes reader) :
    reader.offset = (passes.flatMap (·.bytes)).length := by
  rw [account.read, Reading.offset_of]

theorem positions (account : Account now passes reader) :
    passes.flatMap (·.positions) = List.range reader.offset := by
  rw [account.follow.positions, account.offset, List.range_eq_range']

theorem fault (account : Account now passes reader) (contents : FileContents) :
    (reader.readOn now contents).fault = none := by
  rw [Reader.readOn_eq_atOnce account.isResting]
  rfl

theorem offset_readOn (account : Account now passes reader) (contents : FileContents) :
    (reader.readOn now contents).reader.offset = max reader.offset contents.size := by
  have length := length_bytes { offset := reader.offset, contents }
  rw [Reader.readOn_eq_atOnce account.isResting]
  simp only [Reader.atOnce, bytes] at length ⊢
  omega

theorem readOn (account : Account now passes reader) (contents : FileContents) :
    Account now (passes ++ [{ offset := reader.offset, contents }])
      (reader.readOn now contents).reader where
  read := by
    rw [Reader.readOn_eq_atOnce account.isResting, List.flatMap_append, Reading.of_append,
      ← account.read, List.flatMap_singleton]
    rfl
  follow := by
    rw [account.offset_readOn]
    exact account.follow.concat contents

end Account

end Pass

namespace Scene

/-! ## The passes of a step -/

/-- The passes of a run from where it registers a watch: one for each time the log
turns out to have grown meanwhile. -/
def awaitPasses (scene : Scene) (run : Run) : List WatchReply → List Pass
  | .accept landed :: replies =>
      match (scene.watching landed replies).log with
      | .ok (.file contents) =>
          if run.reader.offset < contents.size then
            let read := scene.readLanded run landed replies contents
            { offset := run.reader.offset, contents } ::
              match (run.reader.readOn scene.now contents).fault with
              | some _ => []
              | none => read.1.awaitPasses read.2 replies
          else []
      | _ => []
  | _ => []

theorem awaitPasses_accept (scene : Scene) (run : Run) (landed : Option (List UInt8))
    (replies : List WatchReply) :
    scene.awaitPasses run (.accept landed :: replies) =
      match (scene.watching landed replies).log with
      | .ok (.file contents) =>
          if run.reader.offset < contents.size then
            let read := scene.readLanded run landed replies contents
            { offset := run.reader.offset, contents } ::
              match (run.reader.readOn scene.now contents).fault with
              | some _ => []
              | none => read.1.awaitPasses read.2 replies
          else []
      | _ => [] := by
  rfl

def followPasses (scene : Scene) (run : Run) : FileEntry → List Pass
  | .directory => []
  | .file contents =>
      let reading := run.reader.readOn scene.now contents
      let read := scene.absorb run reading
      { offset := run.reader.offset, contents } ::
        match reading.fault with
        | some _ => []
        | none => read.1.awaitPasses read.2 scene.replies

def wakePasses (scene : Scene) (run : Run) (token : WatchToken) : List Pass :=
  match scene.log with
  | .ok entry => (scene.woken token).followPasses run entry
  | .error .notFound => (scene.woken token).awaitPasses run scene.replies
  | .error _ => []

def noticePasses (scene : Scene) (change : Change) : List Pass :=
  match scene.session.run with
  | some (run, .asleep token) =>
      if change.resumes scene.session.settings.file then scene.wakePasses run token else []
  | _ => []

/-- The passes of the latest run after a step. A start begins a run if there is none
and the log can be opened. -/
def enter (scene : Scene) (passes : List Pass) : SessionStep → List Pass
  | .start =>
      match scene.session.run, scene.log with
      | none, .ok entry => scene.renewed.followPasses beginRun entry
      | _, _ => passes
  | .notice change => passes ++ scene.noticePasses change
  | _ => passes

def journal (scene : Scene) (passes : List Pass) : List SessionStep → List Pass
  | [] => passes
  | step :: steps => (scene.take step).2.journal (scene.enter passes step) steps

/-! ## The run has read the passes -/

/-- If there is a run, it has read these passes. -/
def Accounts (scene : Scene) (passes : List Pass) : Prop :=
  ∀ run phase, scene.session.run = some (run, phase) → Pass.Account scene.now passes run.reader

namespace Accounts

variable {scene : Scene} {passes : List Pass}

theorem of_absent (absent : scene.session.run = none) (passes : List Pass) :
    scene.Accounts passes :=
  fun _ _ present => nomatch absent.symm.trans present

theorem of_present {run : Run} {phase : RunPhase}
    (present : scene.session.run = some (run, phase))
    (account : Pass.Account scene.now passes run.reader) : scene.Accounts passes := by
  intro other otherPhase same
  cases present.symm.trans same
  exact account

theorem congr {after : Scene} (accounts : scene.Accounts passes)
    (run : after.session.run = scene.session.run) (now : after.now = scene.now) :
    after.Accounts passes := by
  rw [Accounts]
  rw [run, now]
  exact accounts

theorem settle (accounts : scene.Accounts passes) : scene.settle.Accounts passes := by
  rw [Scene.settle]
  rcases found : scene.session.run with _ | ⟨run, phase⟩
  · exact accounts
  have account := accounts run phase found
  dsimp only
  split
  · exact .of_absent rfl _
  · exact .of_absent rfl _
  · exact .of_present rfl account

end Accounts

section

variable {scene : Scene} {run : Run} {passes : List Pass}

theorem await_accounts (account : Pass.Account scene.now passes run.reader)
    (replies : List WatchReply) :
    (scene.await run replies).Accounts (passes ++ scene.awaitPasses run replies) := by
  have none (passes : List Pass) : passes = passes ++ [] := (List.append_nil passes).symm
  induction replies generalizing scene run passes with
  | nil => exact none passes ▸ .of_present rfl account
  | cons reply replies induction =>
      cases reply with
      | refuse cause => exact none passes ▸ .of_present rfl account
      | refuseAtOnce cause => exact none passes ▸ .of_present rfl account
      | accept landed =>
          rw [await_accept, awaitPasses_accept]
          rcases (scene.watching landed replies).log with error | contents | _
          · exact none passes ▸ .of_present rfl account
          · dsimp only
            split
            · rw [account.fault contents, List.append_cons]
              exact induction (account.readOn contents)
            · exact none passes ▸ .of_present rfl account
          · exact none passes ▸ .of_present rfl account

theorem follow_accounts (account : Pass.Account scene.now passes run.reader) (entry : FileEntry) :
    (scene.follow run entry).Accounts (passes ++ scene.followPasses run entry) := by
  cases entry with
  | directory => exact (List.append_nil passes).symm ▸ .of_present rfl account
  | file contents =>
      rw [follow, followPasses]
      dsimp only
      rw [account.fault contents, List.append_cons]
      exact await_accounts (account.readOn contents) scene.replies

theorem wake_accounts (account : Pass.Account scene.now passes run.reader) (token : WatchToken) :
    (scene.wake run token).Accounts (passes ++ scene.wakePasses run token) := by
  have woken : Pass.Account (scene.woken token).now passes run.reader := account
  rw [wake_eq]
  unfold wakePasses
  cases scene.log with
  | ok entry => exact follow_accounts woken entry
  | error error =>
      cases error with
      | notFound => exact await_accounts woken _
      | _ => exact (List.append_nil passes).symm ▸ .of_present rfl woken

theorem start_accounts (settled : scene.IsSettled) (accounts : scene.Accounts passes) :
    scene.start.2.Accounts (scene.enter passes .start) := by
  rw [enter]
  split
  · next entry absent present =>
      rw [start_begins settled absent present]
      have account : Pass.Account scene.renewed.now [] beginRun.reader := .nothing _
      exact (follow_accounts account entry).settle
  · next nothing =>
      have alike : scene.Alike scene.start.2 := by
        apply start_alike
        cases run : scene.session.run with
        | some _ => rfl
        | none =>
            cases opened : scene.log with
            | error _ => rfl
            | ok entry => exact (nothing entry run opened).elim
      exact accounts.congr alike.run alike.now

theorem stop_accounts (accounts : scene.Accounts passes) : scene.stop.2.Accounts passes := by
  rw [stop]
  split
  · exact accounts
  split
  · next run token asleep =>
      have account := accounts run _ asleep
      exact Accounts.settle (.of_present rfl account)
  · exact accounts
  · exact accounts
  · exact accounts

theorem notice_accounts (accounts : scene.Accounts passes) (change : Change) :
    (scene.notice change).2.Accounts (passes ++ scene.noticePasses change) := by
  have still : scene.Accounts (passes ++ []) := by
    rw [List.append_nil]
    exact accounts
  rw [notice, noticePasses]
  rcases found : scene.session.run with _ | ⟨run, phase⟩
  · exact still
  cases phase with
  | asleep token =>
      dsimp only
      split
      · exact (wake_accounts (accounts run _ found) token).settle
      · exact still
  | _ => exact still

theorem join_run (scene : Scene) : scene.join.2.session.run = scene.session.run := by
  rw [join]
  split <;> rfl

theorem take_accounts (settled : scene.IsSettled) (accounts : scene.Accounts passes)
    (step : SessionStep) : (scene.take step).2.Accounts (scene.enter passes step) := by
  cases step with
  | start => exact start_accounts settled accounts
  | stop => exact stop_accounts accounts
  | join => exact accounts.congr (scene.join_run) (scene.join_keeps).now
  | file step =>
      simp only [take, takeFileStep]
      split
      · exact accounts.congr rfl rfl
      · exact accounts
  | notice change => exact notice_accounts accounts change
  | reply reply => exact accounts
  | hold => exact Accounts.settle accounts
  | release => exact Accounts.settle accounts

theorem takeAll_accounts (settled : scene.IsSettled) (accounts : scene.Accounts passes)
    (steps : List SessionStep) : (scene.takeAll steps).Accounts (scene.journal passes steps) := by
  induction steps generalizing scene passes with
  | nil => exact accounts
  | cons step steps induction =>
      exact induction (take_isSettled settled step) (take_accounts settled accounts step)

/-! ## A wake-up -/

/-- The next registration of a watch is accepted, and the log that it finds, whatever
has landed in it, holds nothing beyond an offset. -/
def RegistersQuietly (scene : Scene) (offset : Nat) : Prop :=
  scene.replies = [] ∨ ∃ landed replies, scene.replies = .accept landed :: replies ∧
    ∀ contents, (scene.watching landed replies).log = .ok (.file contents) →
      contents.size ≤ offset

structure SleepsAgain (before after : Scene) (reader : Reader) : Prop where
  run : ∃ run token, after.session.run = some (run, .asleep token) ∧ run.reader = reader
  state : after.session.state = .awaitingChange
  active : after.registry.active = before.registry.active

/-- A notice has the log read in some passes, which bring the run to a reader. What
then lands while the watch is registered is read from there; without it the run
sleeps again. -/
structure WakesTo (scene : Scene) (change : Change) (first : List Pass) (reader : Reader) :
    Prop where
  begins : ∃ more, scene.noticePasses change = first ++ more
  landed : ∀ landed replies contents, scene.replies = .accept landed :: replies →
    (scene.watching landed replies).log = .ok (.file contents) →
    reader.offset < contents.size →
    ∃ more, scene.noticePasses change = first ++ { offset := reader.offset, contents } :: more
  sleeps : scene.RegistersQuietly reader.offset →
    scene.noticePasses change = first ∧
      scene.SleepsAgain (scene.take (.notice change)).2 reader

structure Around (scene other : Scene) : Prop where
  files : other.files = scene.files
  working : other.working = scene.working
  settings : other.session.settings = scene.session.settings
  replies : other.replies = scene.replies

theorem Around.log_watching {scene other : Scene} (around : scene.Around other)
    (landed : Option (List UInt8)) (replies : List WatchReply) :
    (other.watching landed replies).log = (scene.watching landed replies).log := by
  have landing : other.landing = scene.landing := by
    unfold landing
    rw [around.files, around.working, around.settings]
  unfold watching log
  rw [landing, around.files, around.working, around.settings]

theorem await_quietly (quiet : scene.RegistersQuietly run.reader.offset) :
    scene.awaitPasses run scene.replies = [] ∧ ∃ landed replies,
      scene.await run scene.replies =
        (scene.watching landed replies).setRun .awaitingChange run
          (.asleep scene.registry.upcoming) := by
  rcases quiet with nothing | ⟨landed, replies, accepted, short⟩
  · rw [nothing]
    exact ⟨rfl, none, [], await_nil scene run⟩
  · rw [accepted, await_accept, awaitPasses_accept]
    rcases found : (scene.watching landed replies).log with error | contents | _
    · exact ⟨rfl, landed, replies, rfl⟩
    · have passed := Nat.not_lt.mpr (short contents found)
      dsimp only
      rw [if_neg passed, if_neg passed]
      exact ⟨rfl, landed, replies, rfl⟩
    · exact ⟨rfl, landed, replies, rfl⟩

theorem wakesTo_of_await {waiting : Scene} {change : Change} {first : List Pass}
    (around : scene.Around waiting) (one : scene.registry.active = 1)
    (nothing : waiting.registry.watches = [])
    (read : scene.noticePasses change = first ++ waiting.awaitPasses run waiting.replies)
    (woken : (scene.take (.notice change)).2 = (waiting.await run waiting.replies).settle) :
    scene.WakesTo change first run.reader where
  begins := ⟨_, read⟩
  landed := by
    intro landed replies contents accepted found longer
    rw [read, around.replies, accepted, awaitPasses_accept, around.log_watching, found]
    dsimp only
    rw [if_pos longer]
    exact ⟨_, rfl⟩
  sleeps := by
    intro quiet
    have quietly : waiting.RegistersQuietly run.reader.offset := by
      unfold RegistersQuietly at quiet ⊢
      rw [around.replies]
      simpa only [around.log_watching] using quiet
    rcases await_quietly quietly with ⟨noPasses, landed, replies, awaited⟩
    rw [read, noPasses, List.append_nil, woken, awaited]
    refine ⟨rfl, ⟨_, _, rfl, rfl⟩, rfl, ?_⟩
    rw [settle_registry, one]
    simp [watching, setRun, WatchRegistry.grant, WatchRegistry.active, nothing]

theorem active_of_asleep (orderly : scene.IsOrderly) {token : WatchToken}
    (asleep : scene.session.run = some (run, .asleep token)) :
    scene.registry.active = 1 ∧ (scene.woken token).registry.watches = [] := by
  have lone := (orderly.of_asleep asleep).2
  refine ⟨?_, WatchRegistry.watches_unregister lone⟩
  have length := congrArg List.length lone
  rwa [List.length_map] at length

private theorem noticePasses_of_asleep {change : Change} {token : WatchToken}
    (asleep : scene.session.run = some (run, .asleep token))
    (resumes : change.resumes scene.session.settings.file = true) :
    scene.noticePasses change = scene.wakePasses run token := by
  rw [noticePasses, asleep]
  dsimp only
  rw [if_pos resumes]

section

variable {token : WatchToken} {change : Change}

theorem wakesTo_of_file (orderly : scene.IsOrderly)
    (asleep : scene.session.run = some (run, .asleep token))
    (resumes : change.resumes scene.session.settings.file = true)
    (account : Pass.Account scene.now passes run.reader) {contents : FileContents}
    (present : scene.log = .ok (.file contents)) :
    scene.WakesTo change [{ offset := run.reader.offset, contents }]
      (run.reader.readOn scene.now contents).reader := by
  rcases active_of_asleep orderly asleep with ⟨one, nothing⟩
  have faultless : (run.reader.readOn (scene.woken token).now contents).fault = none :=
    account.fault contents
  let read := (scene.woken token).absorb run (run.reader.readOn scene.now contents)
  have around : scene.Around read.1 := ⟨rfl, rfl, rfl, rfl⟩
  change scene.WakesTo change _ read.2.reader
  refine wakesTo_of_await around one nothing ?_ ?_
  · rw [noticePasses_of_asleep asleep resumes]
    unfold wakePasses
    rw [present]
    dsimp only [followPasses]
    rw [faultless]
    rfl
  · rw [take, notice_wakes resumes asleep, wake_eq, present]
    dsimp only [follow]
    rw [faultless]
    rfl

theorem wakesTo_of_missing (orderly : scene.IsOrderly)
    (asleep : scene.session.run = some (run, .asleep token))
    (resumes : change.resumes scene.session.settings.file = true)
    (missing : scene.log = .error .notFound) : scene.WakesTo change [] run.reader := by
  rcases active_of_asleep orderly asleep with ⟨one, nothing⟩
  have around : scene.Around (scene.woken token) := ⟨rfl, rfl, rfl, rfl⟩
  refine wakesTo_of_await around one nothing ?_ ?_
  · rw [noticePasses_of_asleep asleep resumes]
    unfold wakePasses
    rw [missing]
    rfl
  · rw [take, notice_wakes resumes asleep, wake_eq, missing]
    rfl

end

theorem enter_of_present {phase : RunPhase} (present : scene.session.run = some (run, phase))
    (step : SessionStep) : ∃ more, scene.enter passes step = passes ++ more := by
  cases step with
  | start =>
      rw [enter, present]
      exact ⟨[], (List.append_nil _).symm⟩
  | notice change => exact ⟨_, rfl⟩
  | _ => exact ⟨[], (List.append_nil _).symm⟩

theorem offset_le_take (settled : scene.IsSettled) (accounts : scene.Accounts passes)
    {phase : RunPhase} (present : scene.session.run = some (run, phase)) (step : SessionStep)
    (goesOn : (scene.take step).2.session.run.isSome) :
    scene.session.offset ≤ (scene.take step).2.session.offset := by
  rcases Option.isSome_iff_exists.mp goesOn with ⟨⟨later, laterPhase⟩, laterPresent⟩
  rcases enter_of_present present step with ⟨more, entered⟩
  have account := take_accounts settled accounts step later laterPhase laterPresent
  rw [offset_eq present, offset_eq laterPresent, (accounts run phase present).offset,
    account.offset, entered, List.flatMap_append, List.length_append]
  exact Nat.le_add_right _ _

end

/-- Whatever is done to the log between them, a run reads its passes one behind the
other, and its offset is what they come to. A wake-up begins with a pass from there
to the end of the log; without a log it reads nothing. -/
theorem reads_in_passes {scene : Scene} (isNew : scene.IsNew) (steps : List SessionStep) :
    let reached := scene.takeAll steps
    let passes := scene.journal [] steps
    ∀ run phase, reached.session.run = some (run, phase) →
      Pass.Account scene.now passes run.reader ∧
      reached.session.offset = (passes.flatMap (·.bytes)).length ∧
      passes.flatMap (·.positions) = List.range reached.session.offset ∧
      (∀ step, (reached.take step).2.session.run.isSome →
        reached.session.offset ≤ (reached.take step).2.session.offset) ∧
      ∀ token change, phase = .asleep token → change.resumes reached.session.settings.file = true →
        (∀ contents, reached.log = .ok (.file contents) →
          let read := run.reader.atOnce scene.now (contents.toList.drop reached.session.offset)
          read.reader.offset = max reached.session.offset contents.size ∧
          reached.WakesTo change [{ offset := reached.session.offset, contents }] read.reader) ∧
        (reached.log = .error .notFound → reached.WakesTo change [] run.reader) := by
  intro reached passes run phase present
  have now : reached.now = scene.now := (scene.takeAll_keeps steps).now
  have orderly : reached.IsOrderly := takeAll_induction take_isOrderly isNew.isOrderly steps
  have settled : reached.IsSettled := takeAll_isSettled isNew.isSettled steps
  have accounts : reached.Accounts passes :=
    takeAll_accounts isNew.isSettled (.of_absent isNew.absent []) steps
  have account := accounts run phase present
  rw [offset_eq present]
  refine ⟨now ▸ account, account.offset, account.positions, ?_, ?_⟩
  · intro step goesOn
    rw [← offset_eq present]
    exact offset_le_take settled accounts present step goesOn
  rintro token change rfl resumes
  refine ⟨?_, fun missing => wakesTo_of_missing orderly present resumes missing⟩
  intro contents file
  rw [← now, ← Reader.readOn_eq_atOnce account.isResting]
  exact ⟨account.offset_readOn contents, wakesTo_of_file orderly present resumes account file⟩

/-- A log that grows, is cut, grows again to no more than before, is removed, and comes
back longer. -/
theorem reads_in_passes_replaced :
    let tell : SessionStep := .notice { kind := .modified, file := "gps.nmea" }
    let steps : List SessionStep := [
      .start, .file (.append "/gps.nmea" [36, 71, 80]), tell,
      .file (.truncate "/gps.nmea" 1), tell,
      .file (.append "/gps.nmea" [65, 66]), tell,
      .file (.remove "/gps.nmea"), tell,
      .file (.write "/gps.nmea" [1, 2, 3, 4, 5]), tell]
    let passes := unstarted.journal [] steps
    unstarted.IsNew ∧ (unstarted.takeAll steps).session.run.isSome ∧
      passes.map (fun pass => (pass.offset, pass.contents.size)) =
        [(0, 0), (0, 3), (3, 1), (3, 3), (3, 5)] ∧
      passes.flatMap (·.bytes) = [36, 71, 80, 4, 5] ∧
      passes.flatMap (·.positions) = List.range 5 := by
  intro tell steps passes
  have isNew : unstarted.IsNew := ⟨rfl, rfl⟩
  have present : (unstarted.takeAll steps).session.run.isSome := by
    decide +kernel
  have bytes : passes.flatMap (·.bytes) = [36, 71, 80, 4, 5] := by
    decide +kernel
  refine ⟨isNew, present, by decide +kernel, bytes, ?_⟩
  rcases Option.isSome_iff_exists.mp present with ⟨⟨run, phase⟩, found⟩
  rcases reads_in_passes isNew steps run phase found with ⟨_, offset, positions, _⟩
  rw [positions, offset]
  change List.range (passes.flatMap (·.bytes)).length = _
  rw [bytes]
  rfl

end Scene

end ReceiverLog
