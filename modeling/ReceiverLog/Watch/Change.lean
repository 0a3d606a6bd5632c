namespace ReceiverLog

/-! Changes to the files of a watched directory. -/

inductive ChangeKind where
  | modified | movedIn | created | removed | other
  deriving DecidableEq

structure Change where
  kind : ChangeKind
  file : String
  deriving DecidableEq

namespace ChangeKind

/-- New contents may be there: the file was written to, or another file took
its name. -/
def bringsContents : ChangeKind → Bool
  | .modified => true
  | .movedIn => true
  | _ => false

end ChangeKind

def Change.resumes (change : Change) (tracked : String) : Bool :=
  change.file == tracked && change.kind.bringsContents

end ReceiverLog
