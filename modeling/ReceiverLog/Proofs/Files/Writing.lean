import ReceiverLog.Proofs.Files.Growth

namespace ReceiverLog

/-! What is written to a path is found there. A new node must not stand in the
way of the names that led to its place; for that, no directory may have the
identity that it gets. -/

namespace FileTree

/-- The root, the working directory and the directories of all nodes are not
identities that are yet to be given. -/
structure IsRooted (tree : FileTree) (working : NodeId) : Prop where
  root_lt : root < tree.next
  working_lt : working < tree.next
  parent_lt : ∀ node ∈ tree.nodes, node.parent < tree.next

theorem empty_isRooted : empty.IsRooted root where
  root_lt := by decide
  working_lt := by decide
  parent_lt := by
    intro node member
    cases member

def Destination.IsGiven (next : NodeId) : Destination → Prop
  | .node id => id < next
  | .vacancy parent _ => parent < next

variable {tree : FileTree} {working : NodeId}

namespace IsRooted

theorem origin_lt (rooted : tree.IsRooted working) (path : String) :
    origin working path < tree.next := by
  unfold origin
  split
  · exact rooted.root_lt
  · exact rooted.working_lt

theorem parent_of_lt (rooted : tree.IsRooted working) (id : NodeId) :
    tree.parent id < tree.next := by
  unfold FileTree.parent
  split
  · next found => exact rooted.parent_lt _ (List.mem_of_find?_eq_some found)
  · exact rooted.root_lt

theorem follow_isGiven (rooted : tree.IsRooted working) (sound : tree.IsSound)
    {directory : NodeId} (given : directory < tree.next) {names : List String}
    {destination : Destination} (followed : tree.follow directory names = .ok destination) :
    destination.IsGiven tree.next := by
  induction names generalizing directory with
  | nil =>
      cases followed
      exact given
  | cons name rest induction =>
      rw [follow] at followed
      split at followed
      · exact induction given followed
      split at followed
      · exact induction (rooted.parent_of_lt directory) followed
      split at followed
      · cases followed
      split at followed
      · split at followed
        · cases followed
          exact given
        · cases followed
      · next node found =>
          have node_lt := sound.lt_next node (List.mem_of_find?_eq_some found)
          split at followed
          · cases followed
            exact node_lt
          · split at followed
            · exact induction node_lt followed
            · cases followed

theorem resolve_isGiven (rooted : tree.IsRooted working) (sound : tree.IsSound) {path : String}
    {destination : Destination} (resolved : tree.resolve working path = .ok destination) :
    destination.IsGiven tree.next := by
  rcases exists_ok_of_bind resolved with ⟨_, _, followed⟩
  exact rooted.follow_isGiven sound (rooted.origin_lt path) followed

/-! ## Steps on files -/

theorem add (rooted : tree.IsRooted working) {parent : NodeId} (given : parent < tree.next)
    (name : String) (entry : FileEntry) : (tree.add parent name entry).IsRooted working where
  root_lt := Nat.lt_succ_of_lt rooted.root_lt
  working_lt := Nat.lt_succ_of_lt rooted.working_lt
  parent_lt := by
    intro node member
    rcases List.mem_cons.mp member with rfl | member
    · exact Nat.lt_succ_of_lt given
    · exact Nat.lt_succ_of_lt (rooted.parent_lt node member)

theorem put (rooted : tree.IsRooted working) (id : NodeId) (entry : FileEntry) :
    (tree.put id entry).IsRooted working where
  root_lt := rooted.root_lt
  working_lt := rooted.working_lt
  parent_lt := by
    intro node member
    rcases List.mem_map.mp member with ⟨before, inside, rfl⟩
    have before_lt := rooted.parent_lt before inside
    split <;> exact before_lt

theorem relink (rooted : tree.IsRooted working) (id : NodeId) {parent : NodeId}
    (given : parent < tree.next) (name : String) :
    (tree.relink id parent name).IsRooted working where
  root_lt := rooted.root_lt
  working_lt := rooted.working_lt
  parent_lt := by
    intro node member
    rcases List.mem_map.mp member with ⟨before, inside, rfl⟩
    split
    · exact given
    · exact rooted.parent_lt before inside

theorem remove (rooted : tree.IsRooted working) (id : NodeId) :
    (tree.remove id).IsRooted working where
  root_lt := rooted.root_lt
  working_lt := rooted.working_lt
  parent_lt := by
    intro node member
    exact rooted.parent_lt node (List.mem_of_mem_filter member)

theorem makeDirectories {after : FileTree} (rooted : tree.IsRooted working)
    (sound : tree.IsSound) {directory : NodeId} (given : directory < tree.next)
    {names : List String} (made : tree.makeDirectories directory names = .ok after) :
    after.IsRooted working := by
  induction names generalizing tree directory with
  | nil =>
      cases made
      exact rooted
  | cons name rest induction =>
      rw [FileTree.makeDirectories] at made
      split at made
      · exact induction rooted sound given made
      split at made
      · exact induction rooted sound (rooted.parent_of_lt directory) made
      split at made
      · cases made
      split at made
      · exact induction (rooted.add given _ _) (sound.add _ _ _) (Nat.lt_succ_self _) made
      · next node found =>
          split at made
          · exact induction rooted sound
              (sound.lt_next node (List.mem_of_find?_eq_some found)) made
          · cases made

theorem makePath {after : FileTree} (rooted : tree.IsRooted working) (sound : tree.IsSound)
    {path : String} (made : tree.makePath working path = .ok after) :
    after.IsRooted working := by
  unfold FileTree.makePath at made
  split at made
  · cases made
    exact rooted
  · rcases exists_ok_of_bind made with ⟨_, _, madeAll⟩
    exact rooted.makeDirectories sound (rooted.origin_lt path) madeAll

theorem modifyFile {after : FileTree} (rooted : tree.IsRooted working) (sound : tree.IsSound)
    {path : String} {change : FileContents → FileContents}
    (modified : tree.modifyFile working path change = .ok after) : after.IsRooted working := by
  rcases exists_ok_of_bind modified with ⟨destination, resolved, changed⟩
  cases destination with
  | vacancy parent name =>
      cases changed
      exact rooted.add (rooted.resolve_isGiven sound resolved) _ _
  | node id =>
      dsimp only at changed
      split at changed
      · cases changed
        exact rooted.put _ _
      · cases changed
      · cases changed

end IsRooted

/-! ## A new node -/

section Add

variable {parent : NodeId} {name : String} {entry : FileEntry}

theorem child?_add_self : (tree.add parent name entry).child? parent name
    = some { id := tree.next, parent, name, entry } := by
  simp [child?, add]

theorem child?_add_of_some {directory : NodeId} {other : String} {node : Node}
    (free : tree.child? parent name = none) (found : tree.child? directory other = some node) :
    (tree.add parent name entry).child? directory other = some node := by
  have elsewhere : ¬ (parent = directory ∧ name = other) := by
    rintro ⟨rfl, rfl⟩
    rw [free] at found
    cases found
  rw [child?, add, List.find?_cons_of_neg (by simpa using elsewhere)]
  exact found

theorem node?_add_self :
    (tree.add parent name entry).node? tree.next = some { id := tree.next, parent, name, entry } := by
  simp [node?, add]

theorem parent_add {id : NodeId} (given : id < tree.next) :
    (tree.add parent name entry).parent id = tree.parent id := by
  rw [FileTree.parent, FileTree.parent, node?, add,
    List.find?_cons_of_neg (by simpa using Nat.ne_of_gt given)]
  rfl

/-- A vacancy is what the names before it lead to. -/
theorem child?_of_follow {directory : NodeId} {names : List String}
    (followed : tree.follow directory names = .ok (.vacancy parent name)) :
    tree.child? parent name = none := by
  fun_induction follow tree directory names <;> simp_all

theorem follow_add (sound : tree.IsSound) (rooted : tree.IsRooted working) {directory : NodeId}
    (given : directory < tree.next) {names : List String}
    (followed : tree.follow directory names = .ok (.vacancy parent name)) :
    (tree.add parent name entry).follow directory names = .ok (.node tree.next) := by
  have free := child?_of_follow followed
  induction names generalizing directory with
  | nil => cases followed
  | cons first rest induction =>
      rw [follow] at followed ⊢
      rw [parent_add given]
      split at followed
      · next idle => rw [if_pos idle]; exact induction given followed
      next idle =>
      rw [if_neg idle]
      split at followed
      · next up => rw [if_pos up]; exact induction (rooted.parent_of_lt directory) followed
      next up =>
      rw [if_neg up]
      split at followed
      · cases followed
      next short =>
      rw [if_neg short]
      split at followed
      · split at followed
        · next last =>
            cases followed
            simp [child?_add_self, last]
        · cases followed
      · next node found =>
          rw [child?_add_of_some free found]
          dsimp only
          split at followed
          · cases followed
          · next more =>
              rw [if_neg more]
              split at followed
              · exact induction (sound.lt_next node (List.mem_of_find?_eq_some found)) followed
              · cases followed

private theorem entry?_add_self (rooted : tree.IsRooted working) :
    entry? (tree.add parent name entry) tree.next = some entry := by
  unfold entry?
  rw [if_neg (Nat.ne_of_gt rooted.root_lt), node?_add_self, Option.map_some]

end Add

theorem lookup_writeFile (sound : tree.IsSound) (rooted : tree.IsRooted working)
    {after : FileTree} {path : String} {contents : List UInt8}
    (written : tree.writeFile working path contents = .ok after) :
    after.lookup working path = .ok (.file (.ofList contents)) := by
  rcases exists_ok_of_bind written with ⟨destination, resolved, changed⟩
  have ⟨_, checked, followed⟩ := exists_ok_of_bind resolved
  apply lookup_file_iff.mpr
  cases destination with
  | vacancy parent name =>
      cases changed
      refine ⟨tree.next, ?_, entry?_add_self rooted⟩
      rw [resolve, checked]
      exact follow_add sound rooted (rooted.origin_lt path) followed
  | node id =>
      dsimp only at changed
      split at changed
      · next found =>
          cases changed
          refine ⟨id, ?_, entry?_put found _⟩
          rw [resolve, checked]
          exact (follow_put sound found _ _ _).trans followed
      · cases changed
      · cases changed

end FileTree

namespace FileStep

variable {files after : FileTree} {working : NodeId}

private theorem slot_directory_lt (sound : files.IsSound) (rooted : files.IsRooted working)
    {path : String} {place : Slot} (found : slot files working path = .ok place) :
    place.directory < files.next := by
  rcases exists_ok_of_bind found with ⟨_, _, found⟩
  dsimp only at found
  split at found
  · cases found
  · rcases exists_ok_of_bind found with ⟨destination, followed, found⟩
    have given := rooted.follow_isGiven sound (rooted.origin_lt path) followed
    cases destination with
    | vacancy parent name => cases found
    | node directory =>
        dsimp only at found
        split at found
        · cases found
        split at found
        · cases found
        · cases found
          exact given

theorem moveTo_isRooted (rooted : files.IsRooted working) {moved : Node} {target : Slot}
    (given : target.directory < files.next) (placed : moveTo files moved target = .ok after) :
    after.IsRooted working := by
  unfold moveTo at placed
  split at placed
  · cases placed
    exact rooted.relink _ given _
  · split at placed
    · cases placed
      exact rooted
    · rcases exists_ok_of_bind placed with ⟨_, _, relinked⟩
      cases relinked
      exact (rooted.remove _).relink _ given _

theorem rename?_isRooted (sound : files.IsSound) (rooted : files.IsRooted working)
    {path target : String} (renamed : rename? files working path target = .ok after) :
    after.IsRooted working := by
  rcases exists_ok_of_bind renamed with ⟨source, _, found⟩
  rcases exists_ok_of_bind found with ⟨place, placeFound, moved⟩
  split at moved
  · cases moved
  split at moved
  · cases moved
  split at moved
  · cases moved
  · exact moveTo_isRooted rooted (slot_directory_lt sound rooted placeFound) moved

theorem apply_isRooted (sound : files.IsSound) (rooted : files.IsRooted working) (step : FileStep)
    (applied : step.apply files working = .ok after) : after.IsRooted working := by
  cases step with
  | write path contents =>
      rcases exists_ok_of_bind applied with ⟨made, parents, written⟩
      exact (rooted.makePath sound parents).modifyFile (sound.makePath parents) written
  | append path contents =>
      rcases exists_ok_of_bind applied with ⟨made, parents, written⟩
      exact (rooted.makePath sound parents).modifyFile (sound.makePath parents) written
  | truncate path length =>
      rcases exists_ok_of_bind applied with ⟨_, _, resized⟩
      exact rooted.modifyFile sound resized
  | remove path =>
      rcases exists_ok_of_bind applied with ⟨id, _, removed⟩
      cases removed
      exact rooted.remove id
  | makeDirectory path => exact rooted.makePath sound applied
  | rename path target => exact rename?_isRooted sound rooted applied
  | changeMode path =>
      rcases exists_ok_of_bind applied with ⟨_, _, same⟩
      cases same
      exact rooted
  | read path =>
      rcases exists_ok_of_bind applied with ⟨_, _, same⟩
      cases same
      exact rooted

end FileStep

namespace FileTree

/-- Trees that steps lead to from the empty one, each with a directory to work in. -/
inductive IsReached : FileTree → NodeId → Prop
  | empty : IsReached empty root
  | step {tree after : FileTree} {working : NodeId} (reached : IsReached tree working)
      (step : FileStep) (applied : step.apply tree working = .ok after) : IsReached after working
  | enter {tree : FileTree} {working directory : NodeId} {path : String}
      (reached : IsReached tree working)
      (resolved : tree.resolve working path = .ok (.node directory)) : IsReached tree directory

namespace IsReached

variable {tree : FileTree} {working : NodeId}

theorem isSound (reached : tree.IsReached working) : tree.IsSound := by
  induction reached with
  | empty => exact empty_isSound
  | step _ step applied sound => exact FileStep.apply_isSound sound step applied
  | enter _ _ sound => exact sound

theorem isRooted (reached : tree.IsReached working) : tree.IsRooted working := by
  induction reached with
  | empty => exact empty_isRooted
  | step reached step applied rooted =>
      exact FileStep.apply_isRooted reached.isSound rooted step applied
  | enter reached resolved rooted =>
      exact { rooted with working_lt := rooted.resolve_isGiven reached.isSound resolved }

end IsReached

end FileTree

end ReceiverLog
