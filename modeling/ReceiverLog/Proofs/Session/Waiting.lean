import ReceiverLog.Session.Step

namespace ReceiverLog

/-! The ways in which waiting for a change may go, one registration of a watch
after the other. -/

namespace Scene

def watching (scene : Scene) (landed : Option (List UInt8)) (replies : List WatchReply) :
    Scene :=
  { scene with
    files := landed.elim scene.files scene.landing
    registry := scene.registry.grant scene.session.settings.directory
    replies }

def withdrawn (scene : Scene) (landed : Option (List UInt8)) (replies : List WatchReply) :
    Scene :=
  { scene.watching landed replies with
    registry := (scene.watching landed replies).registry.unregister scene.registry.upcoming }

def readLanded (scene : Scene) (run : Run) (landed : Option (List UInt8))
    (replies : List WatchReply) (contents : FileContents) : Scene × Run :=
  (scene.withdrawn landed replies).absorb run (run.reader.readOn scene.now contents)

theorem await_nil (scene : Scene) (run : Run) :
    scene.await run [] =
      (scene.watching none []).setRun .awaitingChange run (.asleep scene.registry.upcoming) := by
  rfl

theorem await_accept (scene : Scene) (run : Run) (landed : Option (List UInt8))
    (replies : List WatchReply) :
    scene.await run (.accept landed :: replies) =
      match (scene.watching landed replies).log with
      | .ok (.file contents) =>
          if run.reader.offset < contents.size then
            let read := scene.readLanded run landed replies contents
            match (run.reader.readOn scene.now contents).fault with
            | some fault => read.1.abort .reading read.2 (.decoder fault)
            | none => read.1.await read.2 replies
          else
            (scene.watching landed replies).setRun .awaitingChange run
              (.asleep scene.registry.upcoming)
      | _ =>
          (scene.watching landed replies).setRun .awaitingChange run
            (.asleep scene.registry.upcoming) := by
  rfl

def woken (scene : Scene) (token : WatchToken) : Scene :=
  { scene with registry := scene.registry.unregister token }

theorem wake_eq (scene : Scene) (run : Run) (token : WatchToken) :
    scene.wake run token =
      match scene.log with
      | .ok entry => (scene.woken token).follow run entry
      | .error .notFound => (scene.woken token).await run scene.replies
      | .error error => (scene.woken token).abort .opening run (.file error.message) := by
  rfl

/-- What a run has come to when nothing moves any more, from where it begins to
wait. -/
inductive Awaits : Scene → Run → Scene → Prop
  | last (scene : Scene) (run : Run) :
      Awaits scene run
        ((scene.watching none []).setRun .awaitingChange run (.asleep scene.registry.upcoming))
  | refused (scene : Scene) (run : Run) (cause : Failure) (replies : List WatchReply) :
      Awaits scene run
        ({ scene with registry := scene.registry.refuse, replies }.setRun .awaitingChange run
          (.refused cause))
  | refusedAtOnce (scene : Scene) (run : Run) (cause : Failure) (replies : List WatchReply) :
      Awaits scene run
        ({ scene with registry := scene.registry.refuse, replies }.abort .awaitingChange run
          cause)
  | unchanged {scene : Scene} {run : Run} {landed : Option (List UInt8)}
      {replies : List WatchReply} :
      (∀ contents, (scene.watching landed replies).log = .ok (.file contents) →
        contents.size ≤ run.reader.offset) →
      Awaits scene run
        ((scene.watching landed replies).setRun .awaitingChange run
          (.asleep scene.registry.upcoming))
  | faulty {scene : Scene} {run : Run} {landed : Option (List UInt8)}
      {replies : List WatchReply} {contents : FileContents} {fault : FeedError} :
      (scene.watching landed replies).log = .ok (.file contents) →
      (run.reader.readOn scene.now contents).fault = some fault →
      Awaits scene run
        ((scene.readLanded run landed replies contents).1.abort .reading
          (scene.readLanded run landed replies contents).2 (.decoder fault))
  | grown {scene after : Scene} {run : Run} {landed : Option (List UInt8)}
      {replies : List WatchReply} {contents : FileContents} :
      (scene.watching landed replies).log = .ok (.file contents) →
      Awaits (scene.readLanded run landed replies contents).1
        (scene.readLanded run landed replies contents).2 after →
      Awaits scene run after

theorem await_awaits (scene : Scene) (run : Run) (replies : List WatchReply) :
    scene.Awaits run (scene.await run replies) := by
  induction replies generalizing scene run with
  | nil => exact .last scene run
  | cons reply replies induction =>
      cases reply with
      | refuse cause => exact .refused scene run cause replies
      | refuseAtOnce cause => exact .refusedAtOnce scene run cause replies
      | accept landed =>
          rw [await_accept]
          split
          · next contents present =>
              split
              · next longer =>
                  split
                  · next fault faulty => exact .faulty present faulty
                  · exact .grown present (induction _ _)
              · next short =>
                  apply Awaits.unchanged
                  intro other same
                  cases present.symm.trans same
                  exact Nat.le_of_not_lt short
          · next absent =>
              apply Awaits.unchanged
              intro contents present
              exact absurd present (absent contents)

end Scene

end ReceiverLog
