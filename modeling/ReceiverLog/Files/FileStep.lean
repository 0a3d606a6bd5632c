import ReceiverLog.Files.FileTree

namespace ReceiverLog

inductive FileStep where
  | write (path : String) (contents : List UInt8)
  | append (path : String) (contents : List UInt8)
  | truncate (path : String) (length : Nat)
  | remove (path : String)
  | makeDirectory (path : String)
  | rename (path target : String)
  | changeMode (path : String)
  | read (path : String)

namespace FileStep

/-- A name in a directory, whether or not it is taken. With a slash behind it
in its path, it has to be the name of a directory. -/
structure Slot where
  directory : NodeId
  name : String
  slashed : Bool

def slot (files : FileTree) (working : NodeId) (path : String) : Except FileError Slot := do
  FileTree.checkPath path
  let names := PathName.names path
  let bare := (names.reverse.dropWhile (·.isEmpty)).reverse
  match bare.getLast? with
  | none => .error .unnamed
  | some name =>
      match ← files.follow (FileTree.origin working path) (bare.dropLast ++ ["."]) with
      | .vacancy _ _ => .error .notFound
      | .node directory =>
          if name = "." ∨ name = ".." then .error .unnamed
          else if PathName.longestName < name.utf8ByteSize then .error .nameTooLong
          else .ok { directory, name, slashed := bare.length < names.length }

/-- What a renaming replaces must not be a directory with something in it, and
a file and a directory do not replace one another. -/
def checkReplaced (files : FileTree) (moved replaced : Node) : Except FileError Unit :=
  match moved.entry, replaced.entry with
  | .file _, .file _ => .ok ()
  | .file _, .directory => .error .isDirectory
  | .directory, .file _ => .error .notDirectory
  | .directory, .directory =>
      if files.nodes.any (·.parent == replaced.id) then .error .notEmpty else .ok ()

/-- A node gets another place; a node that had that place is gone. -/
def moveTo (files : FileTree) (moved : Node) (target : Slot) : Except FileError FileTree :=
  match files.child? target.directory target.name with
  | none => .ok (files.relink moved.id target.directory target.name)
  | some replaced =>
      if replaced.id = moved.id then .ok files
      else do
        checkReplaced files moved replaced
        .ok ((files.remove replaced.id).relink moved.id target.directory target.name)

def rename? (files : FileTree) (working : NodeId) (path target : String) :
    Except FileError FileTree := do
  let source ← slot files working path
  let target ← slot files working target
  match files.child? source.directory source.name with
  | none => .error .notFound
  | some moved =>
      if moved.entry ≠ .directory ∧ (source.slashed ∨ target.slashed) then
        .error .notDirectory
      else if (files.subtree moved.id).contains target.directory then .error .insideItself
      else moveTo files moved target

/-- Files and directories that are missing are made by a write. -/
def apply (files : FileTree) (working : NodeId) : FileStep → Except FileError FileTree
  | .write path contents => do
      (← files.makeParents working path).writeFile working path contents
  | .append path contents => do
      (← files.makeParents working path).modifyFile working path (·.append contents)
  | .truncate path length => do
      let _ ← files.locate working path
      files.modifyFile working path (·.resize length)
  | .remove path => do
      .ok (files.remove (← files.locate working path))
  | .makeDirectory path => files.makePath working path
  | .rename path target => rename? files working path target
  | .changeMode path => do
      let _ ← files.locate working path
      .ok files
  | .read path => do
      let _ ← files.locate working path
      .ok files

end FileStep

end ReceiverLog
