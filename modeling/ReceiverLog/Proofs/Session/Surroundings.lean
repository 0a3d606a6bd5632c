import ReceiverLog.Proofs.Files.Growth
import ReceiverLog.Proofs.Session.Waiting

namespace ReceiverLog

/-! What is around a session while it reads on and waits. It moves no file: the
log only grows, by bytes that land in it, and the consumer is not called. -/

namespace Scene

def readable (scene : Scene) (offset : Nat) : List UInt8 :=
  match scene.log with
  | .ok (.file contents) => contents.toList.drop offset
  | _ => []

theorem readable_of_file {scene : Scene} {contents : FileContents}
    (present : scene.log = .ok (.file contents)) (offset : Nat) :
    scene.readable offset = contents.toList.drop offset := by
  unfold readable
  rw [present]

theorem readable_eq_nil {scene : Scene} {offset : Nat}
    (passed : ∀ contents, scene.log = .ok (.file contents) → contents.size ≤ offset) :
    scene.readable offset = [] := by
  unfold readable
  split
  · next contents present =>
      apply List.drop_eq_nil_of_le
      rw [FileContents.length_toList]
      exact passed contents present
  · rfl

/-- A log that is there stays there, and what it holds stays in its place. -/
def LogGrows (before after : Scene) : Prop :=
  ∀ contents, before.log = .ok (.file contents) →
    ∃ later, after.log = .ok (.file later) ∧ contents.toList <+: later.toList

namespace LogGrows

variable {before between after : Scene}

theorem of_log_eq (same : after.log = before.log) : before.LogGrows after :=
  fun contents present => ⟨contents, same.trans present, List.prefix_refl _⟩

theorem trans (first : before.LogGrows between) (second : between.LogGrows after) :
    before.LogGrows after := by
  intro contents present
  rcases first contents present with ⟨longer, longerPresent, longerPrefix⟩
  rcases second longer longerPresent with ⟨longest, longestPresent, longestPrefix⟩
  exact ⟨longest, longestPresent, longerPrefix.trans longestPrefix⟩

theorem readable_eq (grows : before.LogGrows after) (offset : Nat) :
    after.readable offset = before.readable offset ++
      after.readable (offset + (before.readable offset).length) := by
  by_cases there : ∃ contents, before.log = .ok (.file contents)
  · rcases there with ⟨contents, present⟩
    rcases grows contents present with ⟨later, laterPresent, more, equal⟩
    have passed : contents.toList.drop (offset + (contents.toList.length - offset)) = [] :=
      List.drop_eq_nil_of_le (by omega)
    have same : offset - contents.toList.length =
        offset + (contents.toList.length - offset) - contents.toList.length := by omega
    rw [readable_of_file present, readable_of_file laterPresent, readable_of_file laterPresent,
      ← equal, List.drop_append, List.drop_append, List.length_drop, passed, ← same,
      List.nil_append]
  · have nothing : before.readable offset = [] :=
      readable_eq_nil fun contents present => absurd ⟨contents, present⟩ there
    rw [nothing, List.nil_append]
    rfl

end LogGrows

structure Surrounds (before after : Scene) : Prop where
  consumer : after.consumer = before.consumer
  now : after.now = before.now
  working : after.working = before.working
  settings : after.session.settings = before.session.settings
  sound : before.files.IsSound → after.files.IsSound
  grows : before.files.IsSound → before.LogGrows after

namespace Surrounds

variable {before between after : Scene}

theorem trans (first : before.Surrounds between) (second : between.Surrounds after) :
    before.Surrounds after where
  consumer := second.consumer.trans first.consumer
  now := second.now.trans first.now
  working := second.working.trans first.working
  settings := second.settings.trans first.settings
  sound := fun sound => second.sound (first.sound sound)
  grows := fun sound => (first.grows sound).trans (second.grows (first.sound sound))

theorem of_files_eq (consumer : after.consumer = before.consumer)
    (now : after.now = before.now) (working : after.working = before.working)
    (settings : after.session.settings = before.session.settings)
    (files : after.files = before.files) : before.Surrounds after where
  consumer := consumer
  now := now
  working := working
  settings := settings
  sound := fun sound => files ▸ sound
  grows := fun _ => .of_log_eq (by rw [log, log, files, working, settings])

end Surrounds

/-! ## Bytes that land -/

theorem landing_isSound {scene : Scene} (sound : scene.files.IsSound) (landed : List UInt8) :
    (scene.landing landed).IsSound := by
  unfold landing
  split
  · next applied => exact FileStep.apply_isSound sound _ applied
  · exact sound

private theorem lookup_landing {scene : Scene} (sound : scene.files.IsSound)
    {contents : FileContents} (present : scene.log = .ok (.file contents))
    (landed : List UInt8) :
    (scene.landing landed).lookup scene.working scene.session.settings.path =
      .ok (.file (contents.append landed)) := by
  rcases FileStep.apply_append sound present landed with ⟨files, applied, found⟩
  unfold landing
  rw [applied]
  exact found

theorem watching_surrounds (scene : Scene) (landed : Option (List UInt8))
    (replies : List WatchReply) : scene.Surrounds (scene.watching landed replies) := by
  cases landed with
  | none => exact .of_files_eq rfl rfl rfl rfl rfl
  | some landed =>
      unfold watching
      refine ⟨rfl, rfl, rfl, rfl, ?_, ?_⟩
      · intro sound
        have landedSound := landing_isSound sound landed
        simpa only [Option.elim_some] using landedSound
      · intro sound contents present
        refine ⟨contents.append landed, ?_, ?_⟩
        · unfold log
          simp only [Option.elim_some, lookup_landing sound present landed]
        · rw [FileContents.toList_append]
          exact List.prefix_append _ _

theorem readLanded_surrounds (scene : Scene) (run : Run) (landed : Option (List UInt8))
    (replies : List WatchReply) (contents : FileContents) :
    scene.Surrounds (scene.readLanded run landed replies contents).1 := by
  refine (watching_surrounds scene landed replies).trans ?_
  exact .of_files_eq rfl rfl rfl rfl rfl

/-! ## Reading and waiting -/

theorem setRun_surrounds (scene : Scene) (state : SessionState) (run : Run) (phase : RunPhase) :
    scene.Surrounds (scene.setRun state run phase) :=
  .of_files_eq rfl rfl rfl rfl rfl

theorem abort_surrounds (scene : Scene) (state : SessionState) (run : Run) (cause : Failure) :
    scene.Surrounds (scene.abort state run cause) :=
  .of_files_eq rfl rfl rfl rfl rfl

theorem absorb_surrounds (scene : Scene) (run : Run) (reading : Reading) :
    scene.Surrounds (scene.absorb run reading).1 :=
  .of_files_eq rfl rfl rfl rfl rfl

theorem Awaits.surrounds {scene after : Scene} {run : Run} (awaits : scene.Awaits run after) :
    scene.Surrounds after := by
  induction awaits with
  | last scene run => exact (watching_surrounds _ _ _).trans (setRun_surrounds _ _ _ _)
  | refused scene run cause replies => exact .of_files_eq rfl rfl rfl rfl rfl
  | refusedAtOnce scene run cause replies => exact .of_files_eq rfl rfl rfl rfl rfl
  | unchanged _ => exact (watching_surrounds _ _ _).trans (setRun_surrounds _ _ _ _)
  | faulty _ _ => exact (readLanded_surrounds _ _ _ _ _).trans (abort_surrounds _ _ _ _)
  | grown _ _ induction => exact (readLanded_surrounds _ _ _ _ _).trans induction

theorem await_surrounds (scene : Scene) (run : Run) (replies : List WatchReply) :
    scene.Surrounds (scene.await run replies) :=
  (scene.await_awaits run replies).surrounds

theorem follow_surrounds (scene : Scene) (run : Run) (entry : FileEntry) :
    scene.Surrounds (scene.follow run entry) := by
  cases entry with
  | directory => exact abort_surrounds _ _ _ _
  | file contents =>
      rw [follow]
      dsimp only
      split
      · exact .of_files_eq rfl rfl rfl rfl rfl
      · exact .trans (absorb_surrounds _ _ _) (await_surrounds _ _ _)

theorem wake_surrounds (scene : Scene) (run : Run) (token : WatchToken) :
    scene.Surrounds (scene.wake run token) := by
  unfold wake
  dsimp only
  split
  · refine .trans ?_ (follow_surrounds _ _ _)
    exact .of_files_eq rfl rfl rfl rfl rfl
  · refine .trans ?_ (await_surrounds _ _ _)
    exact .of_files_eq rfl rfl rfl rfl rfl
  · exact .of_files_eq rfl rfl rfl rfl rfl

end Scene

end ReceiverLog
