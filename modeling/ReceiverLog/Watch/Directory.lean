import ReceiverLog.Failure
import ReceiverLog.Files.FileStep
import ReceiverLog.Watch.Change

namespace ReceiverLog

/-! What the watch of one directory tells of a step. Only the directory
itself and what is right in it are seen. The watch stays with the directory,
whatever becomes of the path by which it was found. -/

/-- A watched node, with the name by which it is told of itself. -/
structure WatchSite where
  node : NodeId
  name : Option String

namespace Watch

def pathOf (directory : String) : String :=
  PathName.join "." directory

def ownName (files : FileTree) (working : NodeId) (directory : String) : Option String :=
  if !PathName.isAbsolute directory && (PathName.names directory).all PathName.isIdle then
    (files.node? working).map (·.name)
  else PathName.fileName? directory

def site (files : FileTree) (working : NodeId) (directory : String) :
    Except FileError WatchSite := do
  return {
    node := ← files.locate working (pathOf directory)
    name := ownName files working directory }

def refusal (files : FileTree) (working : NodeId) (directory : String) : Option Failure :=
  match files.locate working (pathOf directory) with
  | .ok _ => none
  | .error error => some (.watch error.message)

def ofItself (site : WatchSite) (id : NodeId) (kinds : List ChangeKind) : List Change :=
  if id = site.node then
    site.name.toList.flatMap fun file => kinds.map ({ kind := ·, file })
  else []

def ofInside (site : WatchSite) (node : Node) (kinds : List ChangeKind) : List Change :=
  if node.parent = site.node then kinds.map ({ kind := ·, file := node.name }) else []

def seen (site : WatchSite) (node : Node) (kinds : List ChangeKind) : List Change :=
  ofInside site node kinds ++ ofItself site node.id kinds

def created (site : WatchSite) (before after : FileTree) : List Change :=
  (after.nodes.filter (before.next ≤ ·.id)).flatMap (ofInside site · [.created])

def removed (site : WatchSite) (before after : FileTree) : List Change :=
  let gone := before.nodes.filter fun node => (after.node? node.id).isNone
  gone.flatMap fun node => ofInside site node [.removed] ++ ofItself site node.id [.removed]

/-- A file is opened, perhaps written to, and closed. Emptying a file that is
there counts as writing. -/
def written (site : WatchSite) (before : FileTree) (empties : Bool) (contents : List UInt8)
    (node : Node) : List Change :=
  let isNew := (before.node? node.id).isNone
  let silent := contents.isEmpty && (isNew || !empties)
  seen site node (if silent then [.other] else [.modified, .other])

def moved (site : WatchSite) (before after : FileTree) (node : Node) : List Change :=
  match after.node? node.id with
  | none => []
  | some placed =>
      if placed = node then []
      else
        let replaced := before.nodes.filter fun other => (after.node? other.id).isNone
        ofInside site node [.removed] ++ ofInside site placed [.movedIn]
          ++ ofItself site node.id [.removed]
          ++ replaced.flatMap (ofItself site ·.id [.other, .removed])

def atPath (files : FileTree) (working : NodeId) (path : String)
    (changes : Node → List Change) : List Change :=
  match files.locate working path with
  | .ok id => (files.node? id).toList.flatMap changes
  | .error _ => []

def changes (site : WatchSite) (before after : FileTree) (working : NodeId) :
    FileStep → List Change
  | .write path contents => created site before after
      ++ atPath after working path (written site before true contents)
  | .append path contents => created site before after
      ++ atPath after working path (written site before false contents)
  | .truncate path _ => atPath before working path (seen site · [.modified, .other])
  | .remove _ => removed site before after
  | .makeDirectory _ => created site before after
  | .rename path _ => atPath before working path (moved site before after)
  | .changeMode path => atPath before working path (seen site · [.other])
  | .read _ => []

end Watch

end ReceiverLog
