import ReceiverLog.Files.FileContents
import ReceiverLog.Files.PathName

namespace ReceiverLog

/-! Files and directories in memory. Each is a node with an identity of its
own, which stays the same when the node gets another name or another parent.
The root is a directory that has no name. -/

abbrev NodeId := Nat

inductive FileEntry where
  | file (contents : FileContents)
  | directory
  deriving DecidableEq

structure Node where
  id : NodeId
  parent : NodeId
  name : String
  entry : FileEntry
  deriving DecidableEq

inductive FileError where
  | notFound | notDirectory | isDirectory | invalidName | nameTooLong | notEmpty
  /-- A directory cannot be moved into itself. -/
  | insideItself
  /-- What a path leads to has no name of its own there. -/
  | unnamed
  deriving DecidableEq

def FileError.message : FileError → String
  | .notFound => "No such file or directory"
  | .notDirectory => "Not a directory"
  | .isDirectory => "Is a directory"
  | .invalidName => "file name contained an unexpected NUL byte"
  | .nameTooLong => "File name too long"
  | .notEmpty => "Directory not empty"
  | .insideItself => "Invalid argument"
  | .unnamed => "Device or resource busy"

structure FileTree where
  nodes : List Node
  /-- The identity of the next node to be made. -/
  next : NodeId

namespace FileTree

def root : NodeId := 0

def empty : FileTree := { nodes := [], next := root + 1 }

def node? (tree : FileTree) (id : NodeId) : Option Node :=
  tree.nodes.find? (·.id == id)

def child? (tree : FileTree) (parent : NodeId) (name : String) : Option Node :=
  tree.nodes.find? fun node => node.parent == parent && node.name == name

def parent (tree : FileTree) (id : NodeId) : NodeId :=
  match tree.node? id with
  | some node => node.parent
  | none => root

def entry? (tree : FileTree) (id : NodeId) : Option FileEntry :=
  if id = root then some .directory else (tree.node? id).map (·.entry)

/-! ## Finding nodes -/

/-- What a path leads to: a node, or a name that a directory has free. -/
inductive Destination where
  | node (id : NodeId)
  | vacancy (parent : NodeId) (name : String)
  deriving DecidableEq

/-- Follow names from a directory. The last one need not be taken, and only
from a directory can one go on. -/
def follow (tree : FileTree) (directory : NodeId) : List String → Except FileError Destination
  | [] => .ok (.node directory)
  | name :: rest =>
      if name = "" ∨ name = "." then tree.follow directory rest
      else if name = ".." then tree.follow (tree.parent directory) rest
      else if PathName.longestName < name.utf8ByteSize then .error .nameTooLong
      else
        match tree.child? directory name with
        | none => if rest.isEmpty then .ok (.vacancy directory name) else .error .notFound
        | some node =>
            if rest.isEmpty then .ok (.node node.id)
            else
              match node.entry with
              | .directory => tree.follow node.id rest
              | .file _ => .error .notDirectory

def origin (working : NodeId) (path : String) : NodeId :=
  if PathName.isAbsolute path then root else working

def checkPath (path : String) : Except FileError Unit :=
  if path.toList.contains '\x00' then .error .invalidName
  else if path.isEmpty then .error .notFound
  else if PathName.longestPath < path.utf8ByteSize then .error .nameTooLong
  else .ok ()

def resolve (tree : FileTree) (working : NodeId) (path : String) :
    Except FileError Destination := do
  checkPath path
  tree.follow (origin working path) (PathName.names path)

def locate (tree : FileTree) (working : NodeId) (path : String) : Except FileError NodeId := do
  match ← tree.resolve working path with
  | .node id => .ok id
  | .vacancy _ _ => .error .notFound

def lookup (tree : FileTree) (working : NodeId) (path : String) : Except FileError FileEntry := do
  match tree.entry? (← tree.locate working path) with
  | some entry => .ok entry
  | none => .error .notFound

/-- There is an entry at a path; no error is told from there being none. -/
def isPresent (tree : FileTree) (working : NodeId) (path : String) : Bool :=
  (tree.lookup working path).isOk

/-! ## Changing nodes -/

def add (tree : FileTree) (parent : NodeId) (name : String) (entry : FileEntry) : FileTree where
  nodes := { id := tree.next, parent, name, entry } :: tree.nodes
  next := tree.next + 1

def put (tree : FileTree) (id : NodeId) (entry : FileEntry) : FileTree :=
  { tree with nodes := tree.nodes.map fun node =>
      if node.id = id then { node with entry } else node }

def relink (tree : FileTree) (id parent : NodeId) (name : String) : FileTree :=
  { tree with nodes := tree.nodes.map fun node =>
      if node.id = id then { node with parent, name } else node }

def below (tree : FileTree) (directory : NodeId) : Nat → List NodeId
  | 0 => []
  | depth + 1 =>
      let inside := tree.nodes.filter (·.parent == directory)
      inside.flatMap fun node => node.id :: tree.below node.id depth

/-- A node with everything in it. There are no deeper trees than nodes. -/
def subtree (tree : FileTree) (id : NodeId) : List NodeId :=
  id :: tree.below id tree.nodes.length

def remove (tree : FileTree) (id : NodeId) : FileTree :=
  let removed := tree.subtree id
  { tree with nodes := tree.nodes.filter (!removed.contains ·.id) }

def makeDirectories (tree : FileTree) (directory : NodeId) :
    List String → Except FileError FileTree
  | [] => .ok tree
  | name :: rest =>
      if name = "" ∨ name = "." then tree.makeDirectories directory rest
      else if name = ".." then tree.makeDirectories (tree.parent directory) rest
      else if PathName.longestName < name.utf8ByteSize then .error .nameTooLong
      else
        match tree.child? directory name with
        | none => (tree.add directory name .directory).makeDirectories tree.next rest
        | some node =>
            match node.entry with
            | .directory => tree.makeDirectories node.id rest
            | .file _ => .error .notDirectory

def makePath (tree : FileTree) (working : NodeId) (path : String) :
    Except FileError FileTree := do
  if path.isEmpty then .ok tree
  else
    checkPath path
    tree.makeDirectories (origin working path) (PathName.names path)

def makeParents (tree : FileTree) (working : NodeId) (path : String) :
    Except FileError FileTree :=
  tree.makePath working (PathName.parent path)

/-- A file's contents after a change, the file being made if there is none.
The change is given the contents so far. -/
def modifyFile (tree : FileTree) (working : NodeId) (path : String)
    (change : FileContents → FileContents) : Except FileError FileTree := do
  match ← tree.resolve working path with
  | .vacancy parent name => .ok (tree.add parent name (.file (change .empty)))
  | .node id =>
      match tree.entry? id with
      | some (.file contents) => .ok (tree.put id (.file (change contents)))
      | some .directory => .error .isDirectory
      | none => .error .notFound

def writeFile (tree : FileTree) (working : NodeId) (path : String) (contents : List UInt8) :
    Except FileError FileTree :=
  tree.modifyFile working path fun _ => .ofList contents

end FileTree

end ReceiverLog
