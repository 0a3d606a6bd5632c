import ReceiverLog.Files.FileTree
import ReceiverLog.Proofs.Text.Splitting

namespace ReceiverLog

/-! Paths and the directories on the way to them. Where a path leads to
something, the directories on the way are there, and making them changes
nothing. -/

namespace PathName

private theorem ofNames_names (path : String) : ofNames (names path) = path := by
  apply String.toList_inj.mp
  have same : String.toList ∘ String.ofList = id := funext fun _ => String.toList_ofList
  have parts : (names path).map String.toList = Text.split separator path.toList := by
    rw [names, List.map_map, same, List.map_id]
  rw [ofNames, String.toList_intercalate, parts]
  exact Text.intercalate_split separator path.toList

private theorem separator_notMem_names {path name : String} (member : name ∈ names path) :
    separator ∉ name.toList := by
  rcases List.mem_map.mp member with ⟨part, inside, rfl⟩
  rw [String.toList_ofList]
  exact Text.separator_notMem_split separator path.toList part inside

private theorem names_ofNames {parts : List String} (some : parts ≠ [])
    (bare : ∀ part ∈ parts, separator ∉ part.toList) : names (ofNames parts) = parts := by
  have split : Text.split separator (ofNames parts).toList = parts.map String.toList := by
    rw [ofNames, String.toList_intercalate, Text.split_eq_splitOn]
    apply List.splitOn_intercalate
    · intro part member
      rcases List.mem_map.mp member with ⟨name, inside, rfl⟩
      exact bare name inside
    · rw [Ne, List.map_eq_nil_iff]
      exact some
  have same : String.ofList ∘ String.toList = id := funext fun _ => String.ofList_toList
  rw [names, split, List.map_map, same, List.map_id]

/-! ## The directory that a path's last part is in -/

def above (path : String) : List String :=
  withoutIdleEnd (withoutIdleEnd (names path)).dropLast

theorem parent_eq (path : String) :
    parent path =
      if (ofNames (above path)).isEmpty && isAbsolute path then "/" else ofNames (above path) :=
  rfl

private theorem withoutIdleEnd_prefix (parts : List String) : withoutIdleEnd parts <+: parts :=
  List.rdropWhile_prefix isIdle parts

theorem exists_names_eq (path : String) (some : above path ≠ []) :
    ∃ rest, rest ≠ [] ∧ names path = above path ++ rest := by
  have whole := withoutIdleEnd_prefix (names path)
  have inner := withoutIdleEnd_prefix (withoutIdleEnd (names path)).dropLast
  rcases inner.trans ((List.dropLast_prefix _).trans whole) with ⟨rest, equal⟩
  refine ⟨rest, ?_, equal.symm⟩
  rintro rfl
  have innerLength := inner.length_le
  have wholeLength := whole.length_le
  have positive := List.length_pos_iff.mpr some
  have lengths := congrArg List.length equal
  rw [List.length_dropLast] at innerLength
  rw [List.append_nil] at lengths
  unfold above at positive
  omega

private theorem ofNames_above_ne_empty {path : String} (some : above path ≠ []) :
    ofNames (above path) ≠ "" := by
  intro empty
  rcases exists_names_eq path some with ⟨rest, _, equal⟩
  have bare : ∀ part ∈ above path, separator ∉ part.toList := by
    intro part member
    exact separator_notMem_names (equal ▸ List.mem_append_left rest member)
  have single : above path = [""] := by
    rw [← names_ofNames some bare, empty]
    rfl
  have again : withoutIdleEnd (above path) = above path :=
    List.rdropWhile_idempotent isIdle _
  rw [single] at again
  exact absurd again (by decide)

private theorem path_eq_of_above {path : String} (some : above path ≠ []) :
    ∃ back, path = ofNames (above path) ++ back := by
  rcases exists_names_eq path some with ⟨rest, more, equal⟩
  refine ⟨"/" ++ ofNames rest, ?_⟩
  calc path = ofNames (names path) := (ofNames_names path).symm
    _ = ofNames (above path ++ rest) := by rw [equal]
    _ = ofNames (above path) ++ "/" ++ ofNames rest :=
      String.intercalate_append_of_ne_nil some more
    _ = ofNames (above path) ++ ("/" ++ ofNames rest) := String.append_assoc

theorem isAbsolute_append {front : String} (some : front ≠ "") (back : String) :
    isAbsolute (front ++ back) = isAbsolute front := by
  have characters : front.toList ≠ [] := by
    rw [Ne, String.toList_eq_nil_iff]
    exact some
  rw [isAbsolute, isAbsolute, String.toList_append]
  cases equal : front.toList with
  | nil => exact absurd equal characters
  | cons first others => rfl

end PathName

namespace FileTree

theorem makeDirectories_of_follow {tree : FileTree} {directory : NodeId}
    {names rest : List String} {destination : Destination} (more : rest ≠ [])
    (found : tree.follow directory (names ++ rest) = .ok destination) :
    tree.makeDirectories directory names = .ok tree := by
  induction names generalizing directory with
  | nil => rfl
  | cons name names induction =>
      have goesOn : (names ++ rest).isEmpty = false := by
        cases names <;> simp [more]
      rw [List.cons_append, follow] at found
      rw [makeDirectories]
      split at found
      · next idle => rw [if_pos idle]; exact induction found
      next notIdle =>
      rw [if_neg notIdle]
      split at found
      · next up => rw [if_pos up]; exact induction found
      next notUp =>
      rw [if_neg notUp]
      split at found
      · cases found
      next fits =>
      rw [if_neg fits]
      cases child : tree.child? directory name with
      | none =>
          rw [child] at found
          simp [goesOn] at found
      | some node =>
          rw [child] at found
          cases entry : node.entry with
          | file contents => simp [goesOn, entry] at found
          | directory =>
              simp only [goesOn, entry] at found ⊢
              exact induction found

private theorem checkPath_ok_iff {path : String} :
    checkPath path = .ok () ↔
      '\x00' ∉ path.toList ∧ path ≠ "" ∧ path.utf8ByteSize ≤ PathName.longestPath := by
  rw [checkPath]
  split
  · simp_all
  · split
    · simp_all
    · split <;> simp_all

private theorem checkPath_of_append {front back : String} (some : front ≠ "")
    (checked : checkPath (front ++ back) = .ok ()) : checkPath front = .ok () := by
  rw [checkPath_ok_iff] at checked ⊢
  rcases checked with ⟨printable, _, fits⟩
  rw [String.toList_append, List.mem_append, not_or] at printable
  rw [String.utf8ByteSize_append] at fits
  exact ⟨printable.1, some, by omega⟩

private theorem makePath_of_checkPath {tree : FileTree} {path : String} (some : path ≠ "")
    (checked : checkPath path = .ok ()) (working : NodeId) :
    tree.makePath working path =
      tree.makeDirectories (origin working path) (PathName.names path) := by
  have filled : ¬path.isEmpty = true := by simpa using some
  rw [makePath, if_neg filled, checked]
  rfl

theorem makeParents_of_resolve {tree : FileTree} {working : NodeId} {path : String}
    {destination : Destination} (resolved : tree.resolve working path = .ok destination) :
    tree.makeParents working path = .ok tree := by
  have checked : checkPath path = .ok () := by
    cases equal : checkPath path with
    | ok _ => rfl
    | error error => simp [resolve, equal, bind, Except.bind] at resolved
  have found : tree.follow (origin working path) (PathName.names path) = .ok destination := by
    simpa [resolve, checked, bind, Except.bind] using resolved
  rw [makeParents, PathName.parent_eq]
  by_cases none : PathName.above path = []
  · have empty : PathName.ofNames (PathName.above path) = "" := by
      rw [none]
      rfl
    rw [empty]
    cases PathName.isAbsolute path <;> rfl
  · have some := PathName.ofNames_above_ne_empty none
    have filled : (PathName.ofNames (PathName.above path)).isEmpty = false := by
      simpa using some
    rcases PathName.exists_names_eq path none with ⟨rest, more, names⟩
    rcases PathName.path_eq_of_above none with ⟨back, whole⟩
    have bare : ∀ part ∈ PathName.above path, PathName.separator ∉ part.toList := by
      intro part member
      exact PathName.separator_notMem_names (names ▸ List.mem_append_left rest member)
    have usable : checkPath (PathName.ofNames (PathName.above path)) = .ok () :=
      checkPath_of_append some (whole ▸ checked)
    have start : origin working (PathName.ofNames (PathName.above path)) =
        origin working path := by
      rw [origin, origin, ← PathName.isAbsolute_append some back, ← whole]
    have made := makeDirectories_of_follow more (names ▸ found)
    rw [filled, Bool.false_and, if_neg Bool.false_ne_true, makePath_of_checkPath some usable,
      start, PathName.names_ofNames none bare, made]

end FileTree

end ReceiverLog
