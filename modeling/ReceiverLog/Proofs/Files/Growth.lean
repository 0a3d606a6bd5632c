import Mathlib.Data.List.Nodup
import ReceiverLog.Files.FileStep
import ReceiverLog.Proofs.Except
import ReceiverLog.Proofs.Files.Parents

namespace ReceiverLog

/-! Files that grow. Bytes appended to a file are found behind those that were
there, at the same path, and nothing is moved. This rests on the identities of
the nodes, which no step on files confuses. -/

namespace FileTree

/-- No two nodes are the same, and none is the root or the next one to be made. -/
structure IsSound (tree : FileTree) : Prop where
  nodup : (tree.nodes.map (·.id)).Nodup
  lt_next : ∀ node ∈ tree.nodes, node.id < tree.next

theorem empty_isSound : empty.IsSound where
  nodup := .nil
  lt_next := by
    intro node member
    cases member

namespace IsSound

variable {tree : FileTree}

private theorem entry_eq (sound : tree.IsSound) {node : Node} {contents : FileContents}
    (member : node ∈ tree.nodes) (found : tree.entry? node.id = some (.file contents)) :
    node.entry = .file contents := by
  unfold entry? at found
  split at found
  · cases found
  · rcases Option.map_eq_some_iff.mp found with ⟨other, otherFound, equal⟩
    have otherMember := List.mem_of_find?_eq_some otherFound
    have sameId : other.id = node.id := by
      simpa using List.find?_some otherFound
    have same := List.inj_on_of_nodup_map sound.nodup otherMember member sameId
    rw [← same, equal]

end IsSound

/-! ## Other contents for a file -/

section Put

variable {tree : FileTree} {id : NodeId} {entry : FileEntry}

theorem child?_put (parent : NodeId) (name : String) :
    (tree.put id entry).child? parent name =
      (tree.child? parent name).map fun node =>
        if node.id = id then { node with entry } else node := by
  rw [child?, child?, put, List.find?_map]
  congr 2
  funext node
  dsimp only [Function.comp]
  split <;> rfl

theorem node?_put (other : NodeId) :
    (tree.put id entry).node? other =
      (tree.node? other).map fun node =>
        if node.id = id then { node with entry } else node := by
  rw [node?, node?, put, List.find?_map]
  congr 2
  funext node
  dsimp only [Function.comp]
  split <;> rfl

theorem parent_put (other : NodeId) : (tree.put id entry).parent other = tree.parent other := by
  rw [parent, parent, node?_put]
  cases tree.node? other with
  | none => rfl
  | some node =>
      dsimp only [Option.map_some]
      split <;> rfl

theorem entry?_put {contents : FileContents} (found : tree.entry? id = some (.file contents))
    (other : FileContents) :
    entry? (tree.put id (.file other)) id = some (.file other) := by
  unfold entry? at found ⊢
  split at found
  · cases found
  · next notRoot =>
      rcases Option.map_eq_some_iff.mp found with ⟨node, nodeFound, _⟩
      have sameId : node.id = id := by
        simpa using List.find?_some nodeFound
      rw [if_neg notRoot, node?_put, nodeFound, Option.map_some, Option.map_some, if_pos sameId]

theorem follow_put (sound : tree.IsSound) {contents : FileContents}
    (found : tree.entry? id = some (.file contents)) (other : FileContents)
    (directory : NodeId) (names : List String) :
    (tree.put id (.file other)).follow directory names = tree.follow directory names := by
  induction names generalizing directory with
  | nil => rfl
  | cons name rest induction =>
      rw [follow, follow, induction, induction, parent_put, child?_put]
      cases child : tree.child? directory name with
      | none => rfl
      | some node =>
          by_cases same : node.id = id
          · have member := List.mem_of_find?_eq_some child
            have file := sound.entry_eq member (same ▸ found)
            simp [same, file]
          · simp [same, induction]

theorem lookup_file_iff {working : NodeId} {path : String} {contents : FileContents} :
    tree.lookup working path = .ok (.file contents) ↔
      ∃ id, tree.resolve working path = .ok (.node id) ∧
        tree.entry? id = some (.file contents) := by
  rw [lookup, locate]
  cases tree.resolve working path with
  | error error => simp [bind, Except.bind]
  | ok destination =>
      cases destination with
      | vacancy parent name => simp [bind, Except.bind]
      | node id =>
          cases found : tree.entry? id <;> simp [bind, Except.bind, found]

end Put

/-! ## Identities are kept apart -/

namespace IsSound

variable {tree : FileTree}

theorem of_sublist (sound : tree.IsSound) {nodes : List Node} {next : NodeId}
    (ids : (nodes.map (·.id)).Sublist (tree.nodes.map (·.id))) (grows : tree.next ≤ next) :
    IsSound { nodes, next } where
  nodup := ids.nodup sound.nodup
  lt_next := by
    intro node member
    rcases List.mem_map.mp (ids.subset (List.mem_map_of_mem member)) with ⟨other, inside, equal⟩
    have bound : node.id < tree.next := equal ▸ sound.lt_next other inside
    exact Nat.lt_of_lt_of_le bound grows

private theorem of_same_ids (sound : tree.IsSound) {change : Node → Node}
    (same : ∀ node, (change node).id = node.id) :
    IsSound { tree with nodes := tree.nodes.map change } := by
  have ids : (tree.nodes.map change).map (·.id) = tree.nodes.map (·.id) := by
    rw [List.map_map]
    exact List.map_congr_left fun node _ => same node
  exact sound.of_sublist (ids ▸ List.Sublist.refl _) (Nat.le_refl _)

theorem add (sound : tree.IsSound) (parent : NodeId) (name : String) (entry : FileEntry) :
    (tree.add parent name entry).IsSound where
  nodup := by
    rw [FileTree.add, List.map_cons]
    apply List.nodup_cons.mpr
    refine ⟨?_, sound.nodup⟩
    intro member
    rcases List.mem_map.mp member with ⟨node, inside, equal⟩
    have bound := sound.lt_next node inside
    exact absurd equal (Nat.ne_of_lt bound)
  lt_next := by
    intro node member
    rcases List.mem_cons.mp member with rfl | member
    · exact Nat.lt_succ_self _
    · exact Nat.lt_succ_of_lt (sound.lt_next node member)

theorem put (sound : tree.IsSound) (id : NodeId) (entry : FileEntry) :
    (tree.put id entry).IsSound := by
  apply sound.of_same_ids
  intro node
  split <;> rfl

theorem relink (sound : tree.IsSound) (id parent : NodeId) (name : String) :
    (tree.relink id parent name).IsSound := by
  apply sound.of_same_ids
  intro node
  split <;> rfl

theorem remove (sound : tree.IsSound) (id : NodeId) : (tree.remove id).IsSound :=
  sound.of_sublist (List.filter_sublist.map _) (Nat.le_refl _)

theorem makeDirectories {after : FileTree} (sound : tree.IsSound) {directory : NodeId}
    {names : List String} (made : tree.makeDirectories directory names = .ok after) :
    after.IsSound := by
  induction names generalizing tree directory with
  | nil =>
      cases made
      exact sound
  | cons name rest induction =>
      rw [FileTree.makeDirectories] at made
      split at made
      · exact induction sound made
      split at made
      · exact induction sound made
      split at made
      · cases made
      split at made
      · exact induction (sound.add _ _ _) made
      · split at made
        · exact induction sound made
        · cases made

theorem makePath {after : FileTree} (sound : tree.IsSound) {working : NodeId} {path : String}
    (made : tree.makePath working path = .ok after) : after.IsSound := by
  unfold FileTree.makePath at made
  split at made
  · cases made
    exact sound
  · rcases exists_ok_of_bind made with ⟨_, _, madeAll⟩
    exact sound.makeDirectories madeAll

theorem modifyFile {after : FileTree} (sound : tree.IsSound) {working : NodeId} {path : String}
    {change : FileContents → FileContents}
    (modified : tree.modifyFile working path change = .ok after) : after.IsSound := by
  rcases exists_ok_of_bind modified with ⟨destination, _, changed⟩
  cases destination with
  | vacancy parent name =>
      cases changed
      exact sound.add _ _ _
  | node id =>
      dsimp only at changed
      split at changed
      · cases changed
        exact sound.put _ _
      · cases changed
      · cases changed

end IsSound

end FileTree

namespace FileStep

variable {files after : FileTree} {working : NodeId}

theorem moveTo_isSound (sound : files.IsSound) {moved : Node} {target : Slot}
    (placed : moveTo files moved target = .ok after) : after.IsSound := by
  unfold moveTo at placed
  split at placed
  · cases placed
    exact sound.relink _ _ _
  · next replaced _ =>
      split at placed
      · cases placed
        exact sound
      · rcases exists_ok_of_bind placed with ⟨_, _, relinked⟩
        cases relinked
        exact (sound.remove _).relink _ _ _

theorem rename?_isSound (sound : files.IsSound) {path target : String}
    (renamed : rename? files working path target = .ok after) : after.IsSound := by
  rcases exists_ok_of_bind renamed with ⟨source, _, found⟩
  rcases exists_ok_of_bind found with ⟨place, _, moved⟩
  split at moved
  · cases moved
  split at moved
  · cases moved
  split at moved
  · cases moved
  · exact moveTo_isSound sound moved

theorem apply_isSound (sound : files.IsSound) (step : FileStep)
    (applied : step.apply files working = .ok after) : after.IsSound := by
  cases step with
  | write path contents =>
      rcases exists_ok_of_bind applied with ⟨made, parents, written⟩
      exact (sound.makePath parents).modifyFile written
  | append path contents =>
      rcases exists_ok_of_bind applied with ⟨made, parents, written⟩
      exact (sound.makePath parents).modifyFile written
  | truncate path length =>
      rcases exists_ok_of_bind applied with ⟨_, _, resized⟩
      exact sound.modifyFile resized
  | remove path =>
      rcases exists_ok_of_bind applied with ⟨id, _, removed⟩
      cases removed
      exact sound.remove id
  | makeDirectory path => exact sound.makePath applied
  | rename path target => exact rename?_isSound sound applied
  | changeMode path =>
      rcases exists_ok_of_bind applied with ⟨_, _, same⟩
      cases same
      exact sound
  | read path =>
      rcases exists_ok_of_bind applied with ⟨_, _, same⟩
      cases same
      exact sound

theorem apply_append (sound : files.IsSound) {path : String} {contents : FileContents}
    (present : files.lookup working path = .ok (.file contents)) (bytes : List UInt8) :
    ∃ after, (append path bytes).apply files working = .ok after ∧
      after.lookup working path = .ok (.file (contents.append bytes)) := by
  rcases FileTree.lookup_file_iff.mp present with ⟨id, resolved, found⟩
  have parents := FileTree.makeParents_of_resolve resolved
  refine ⟨files.put id (.file (contents.append bytes)), ?_, ?_⟩
  · rw [apply, parents]
    simp [FileTree.modifyFile, resolved, found, bind, Except.bind]
  · apply FileTree.lookup_file_iff.mpr
    refine ⟨id, ?_, FileTree.entry?_put found _⟩
    rw [← resolved, FileTree.resolve, FileTree.resolve]
    simp only [FileTree.follow_put sound found]

end FileStep

end ReceiverLog
