import Mathlib.Data.List.Infix
import ReceiverLog.Roster

namespace ReceiverLog

/-! What a roster holds, told from the satellites that were entered into it. The
first numbers that appear are kept, as many as there is room for, and of each of
them what was listed last. -/

namespace Roster

/-- The numbers kept of those that are listed: the distinct ones in the order in
which they first appear, as far as there is room. -/
def kept (listed : List Satellite) : List UInt16 :=
  (listed.map (·.prn)).eraseDups.take rosterCapacity

def latest? (listed : List Satellite) (prn : UInt16) : Option Satellite :=
  listed.reverse.find? (·.prn == prn)

def collected (listed : List Satellite) : Roster :=
  (kept listed).filterMap (latest? listed)

/-! ## The numbers that are kept -/

private theorem eraseDups_nodup {α : Type} [BEq α] [LawfulBEq α] (values : List α) :
    values.eraseDups.Nodup := by
  induction length : values.length using Nat.strongRecOn generalizing values with
  | ind _ induction =>
      subst length
      cases values with
      | nil => exact .nil
      | cons value values =>
          have shorter := List.length_filter_le (fun other => !other == value) values
          rw [List.eraseDups_cons, List.nodup_cons, List.mem_eraseDups]
          exact ⟨by simp, induction _ (Nat.lt_succ_of_le shorter) _ rfl⟩

private theorem eraseDups_concat (values : List UInt16) (value : UInt16) :
    (values ++ [value]).eraseDups =
      if value ∈ values then values.eraseDups else values.eraseDups ++ [value] := by
  rw [List.eraseDups_append]
  by_cases known : value ∈ values
  · have nothing : [value].removeAll values = [] := by simp [List.removeAll, known]
    rw [nothing, if_pos known, List.eraseDups_nil, List.append_nil]
  · have alone : [value].removeAll values = [value] := by simp [List.removeAll, known]
    rw [alone, if_neg known, List.eraseDups_cons, List.filter_nil, List.eraseDups_nil]

theorem kept_nodup (listed : List Satellite) : (kept listed).Nodup :=
  (eraseDups_nodup _).sublist (List.take_sublist _ _)

theorem length_kept_le (listed : List Satellite) : (kept listed).length ≤ rosterCapacity :=
  List.length_take_le _ _

private theorem exists_of_mem_kept {listed : List Satellite} {prn : UInt16}
    (member : prn ∈ kept listed) : ∃ satellite ∈ listed, satellite.prn = prn := by
  have appears := List.mem_of_mem_take member
  rwa [List.mem_eraseDups, List.mem_map] at appears

theorem kept_prefix_append (listed later : List Satellite) :
    kept listed <+: kept (listed ++ later) := by
  rw [kept, kept, List.map_append, List.eraseDups_append]
  exact (List.prefix_append _ _).take _

theorem kept_append_of_notMem {listed : List Satellite} {satellite : Satellite}
    (member : satellite ∈ listed) (left : satellite.prn ∉ kept listed) (later : List Satellite) :
    kept (listed ++ later) = kept listed := by
  have full : (kept listed).length = rosterCapacity := by
    by_contra room
    have bound := length_kept_le listed
    apply left
    rw [kept, List.length_take] at room bound
    rw [kept, List.take_of_length_le (by omega), List.mem_eraseDups]
    exact List.mem_map_of_mem member
  refine ((kept_prefix_append listed later).eq_of_length_le ?_).symm
  rw [full]
  exact length_kept_le _

/-- Whether a number that has been listed is kept is not changed by what comes later. -/
theorem mem_kept_append_iff {listed : List Satellite} {satellite : Satellite}
    (member : satellite ∈ listed) (later : List Satellite) :
    satellite.prn ∈ kept (listed ++ later) ↔ satellite.prn ∈ kept listed := by
  by_cases isKept : satellite.prn ∈ kept listed
  · simp only [isKept, iff_true]
    exact (kept_prefix_append listed later).subset isKept
  · rw [kept_append_of_notMem member isKept]

private theorem kept_concat_of_mem {listed : List Satellite} {satellite : Satellite}
    (member : satellite.prn ∈ kept listed) : kept (listed ++ [satellite]) = kept listed := by
  rcases exists_of_mem_kept member with ⟨other, inside, equal⟩
  have known : satellite.prn ∈ listed.map (·.prn) := equal ▸ List.mem_map_of_mem inside
  rw [kept, kept, List.map_append, List.map_singleton, eraseDups_concat, if_pos known]

private theorem kept_concat_of_room {listed : List Satellite} {satellite : Satellite}
    (new : satellite.prn ∉ kept listed) (room : (kept listed).length < rosterCapacity) :
    kept (listed ++ [satellite]) = kept listed ++ [satellite.prn] := by
  have fits : (listed.map (·.prn)).eraseDups.length < rosterCapacity := by
    rw [kept, List.length_take] at room
    omega
  have whole : kept listed = (listed.map (·.prn)).eraseDups :=
    List.take_of_length_le (Nat.le_of_lt fits)
  have unknown : satellite.prn ∉ listed.map (·.prn) := by
    rwa [whole, List.mem_eraseDups] at new
  rw [whole, kept, List.map_append, List.map_singleton, eraseDups_concat, if_neg unknown]
  apply List.take_of_length_le
  rw [List.length_append]
  exact fits

private theorem kept_concat_of_full {listed : List Satellite} {satellite : Satellite}
    (full : ¬(kept listed).length < rosterCapacity) :
    kept (listed ++ [satellite]) = kept listed := by
  refine ((kept_prefix_append listed [satellite]).eq_of_length_le ?_).symm
  exact Nat.le_trans (length_kept_le _) (Nat.le_of_not_lt full)

/-! ## The latest of each -/

theorem latest?_concat (listed : List Satellite) (satellite : Satellite) (prn : UInt16) :
    latest? (listed ++ [satellite]) prn =
      if satellite.prn = prn then some satellite else latest? listed prn := by
  rw [latest?, List.reverse_concat, List.find?_cons]
  by_cases equal : satellite.prn = prn
  · simp [equal]
  · simp [equal, beq_false_of_ne equal, latest?]

theorem prn_of_latest? {listed : List Satellite} {prn : UInt16} {satellite : Satellite}
    (found : latest? listed prn = some satellite) : satellite.prn = prn := by
  simpa using List.find?_some found

theorem exists_latest? {listed : List Satellite} {prn : UInt16} (member : prn ∈ kept listed) :
    ∃ satellite, latest? listed prn = some satellite := by
  rcases exists_of_mem_kept member with ⟨satellite, inside, equal⟩
  rw [← Option.isSome_iff_exists, latest?, List.find?_isSome]
  exact ⟨satellite, List.mem_reverse.mpr inside, by simpa using equal⟩

theorem latest?_of_mem_collected {listed : List Satellite} {satellite : Satellite}
    (member : satellite ∈ collected listed) :
    latest? listed satellite.prn = some satellite := by
  rcases List.mem_filterMap.mp member with ⟨prn, _, found⟩
  rw [prn_of_latest? found]
  exact found

theorem map_prn_collected (listed : List Satellite) :
    (collected listed).map (·.prn) = kept listed := by
  rw [collected, List.map_filterMap]
  have same : ∀ prn ∈ kept listed,
      (latest? listed prn).map (·.prn) = some prn := by
    intro prn member
    rcases exists_latest? member with ⟨satellite, found⟩
    rw [found, Option.map_some, prn_of_latest? found]
  rw [List.filterMap_congr same, List.filterMap_some]

theorem lists_collected (listed : List Satellite) (prn : UInt16) :
    lists (collected listed) prn = (kept listed).contains prn := by
  rw [lists, ← map_prn_collected, List.contains_eq_any_beq, List.any_map]
  congr
  funext satellite
  exact Bool.beq_comm

/-! ## Entering -/

theorem update_collected {listed : List Satellite} {satellite : Satellite}
    (member : satellite.prn ∈ kept listed) :
    update (collected listed) satellite = collected (listed ++ [satellite]) := by
  rw [update, collected, collected, kept_concat_of_mem member, List.map_filterMap]
  apply List.filterMap_congr
  intro prn prnMember
  rcases exists_latest? prnMember with ⟨other, found⟩
  rw [latest?_concat, found, Option.map_some, prn_of_latest? found]
  by_cases equal : satellite.prn = prn
  · simp [equal]
  · simp [equal, Ne.symm equal]

private theorem filterMap_latest?_concat {listed : List Satellite} {satellite : Satellite}
    (new : satellite.prn ∉ kept listed) :
    (kept listed).filterMap (latest? (listed ++ [satellite])) = collected listed := by
  apply List.filterMap_congr
  intro prn member
  have different : satellite.prn ≠ prn := by
    rintro rfl
    exact new member
  rw [latest?_concat, if_neg different]

private theorem enter_collected (listed : List Satellite) (satellite : Satellite) :
    enter (collected listed) satellite =
      (collected (listed ++ [satellite]),
        !(kept (listed ++ [satellite])).contains satellite.prn) := by
  have length : (collected listed).length = (kept listed).length := by
    rw [← map_prn_collected, List.length_map]
  rw [enter, lists_collected, length]
  by_cases member : satellite.prn ∈ kept listed
  · have still : satellite.prn ∈ kept (listed ++ [satellite]) := by
      rwa [kept_concat_of_mem member]
    simp [member, still, update_collected member]
  by_cases room : (kept listed).length < rosterCapacity
  · have entered : collected (listed ++ [satellite]) = collected listed ++ [satellite] := by
      rw [collected, kept_concat_of_room member room, List.filterMap_append,
        filterMap_latest?_concat member]
      simp [latest?_concat]
    simp [member, room, entered, kept_concat_of_room member room]
  · have same : collected (listed ++ [satellite]) = collected listed := by
      rw [collected, kept_concat_of_full room, filterMap_latest?_concat member]
    simp [member, room, same, kept_concat_of_full room]

/-- Satellites entered one after the other leave what is collected of all of them, and
one of them is left out exactly if its number is not kept. -/
theorem enterAll_collected (before listed : List Satellite) :
    enterAll (collected before) listed =
      (collected (before ++ listed),
        listed.any fun satellite => !(kept (before ++ listed)).contains satellite.prn) := by
  induction listed generalizing before with
  | nil => simp [enterAll]
  | cons satellite rest induction =>
      have stays : satellite.prn ∈ kept (before ++ [satellite] ++ rest) ↔
          satellite.prn ∈ kept (before ++ [satellite]) :=
        mem_kept_append_iff (List.mem_append_right before List.mem_cons_self) rest
      rw [List.append_cons, enterAll, enter_collected]
      dsimp only
      rw [induction, List.any_cons]
      simp only [List.contains_eq_mem, stays]

end Roster

end ReceiverLog
