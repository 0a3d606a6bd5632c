import Mathlib.Data.List.Nodup
import ReceiverLog.Watch.Registry

namespace ReceiverLog

/-! What a registry knows of the watches after any calls. No token is issued twice, the live
watches are those that were granted and not unregistered since, and no call touches the
watch of another one. A registry counts its tokens without end. A program has machine words
for them, and keeps its watchers in a map; until the words run out, both come to the same. -/

/-! ## Calls and their records -/

/-- A call to a registry. A registration comes with the platform's refusal, if there is one.
The directory that is named when a watch is withdrawn can be any. -/
inductive WatchCall where
  | register (directory : String) (refusal : Option Failure)
  | unregister (directory : String) (token : UInt64)

def WatchCall.draws : WatchCall → Bool
  | .register _ _ => true
  | .unregister _ _ => false

def WatchToken.ofWord (word : UInt64) : WatchToken where
  id := word.toNat

theorem WatchToken.ofWord_inj {left right : UInt64} : ofWord left = ofWord right ↔ left = right := by
  rw [ofWord, ofWord, WatchToken.mk.injEq, UInt64.toNat_inj]

inductive WatchRecord where
  | granted (watch : Watch)
  | refused (failure : Failure)
  | unregistered (token : WatchToken)
  deriving DecidableEq

def WatchCall.takeAll {State : Type} (take : State → WatchCall → WatchRecord × State)
    (state : State) : List WatchCall → List WatchRecord × State
  | [] => ([], state)
  | call :: calls =>
      let (record, after) := take state call
      let (records, final) := takeAll take after calls
      (record :: records, final)

namespace WatchRecord

def issued? : WatchRecord → Option WatchToken
  | .granted watch => some watch.token
  | _ => none

def issued (records : List WatchRecord) : List WatchToken :=
  records.filterMap issued?

/-- The watches that were granted, but for those whose token was unregistered later. -/
def standing : List WatchRecord → List Watch
  | [] => []
  | .granted watch :: later =>
      if .unregistered watch.token ∈ later then standing later else watch :: standing later
  | _ :: later => standing later

theorem issued_concat (records : List WatchRecord) (record : WatchRecord) :
    issued (records ++ [record]) = issued records ++ record.issued?.toList := by
  rw [issued, List.filterMap_append]
  cases record <;> rfl

/-- Only an unregistration takes something away. -/
theorem standing_concat (records : List WatchRecord) {record : WatchRecord}
    (others : ∀ token, record ≠ .unregistered token) :
    standing (records ++ [record]) = standing records ++ standing [record] := by
  induction records with
  | nil => rfl
  | cons earlier records induction =>
      cases earlier with
      | granted watch =>
          have later : WatchRecord.unregistered watch.token ∈ records ++ [record] ↔
              .unregistered watch.token ∈ records := by simp [(others watch.token).symm]
          simp only [List.cons_append, standing, later, induction]
          split <;> rfl
      | refused failure => exact induction
      | unregistered token => exact induction

private theorem standing_concat_unregistered (records : List WatchRecord) (token : WatchToken) :
    standing (records ++ [.unregistered token]) =
      (standing records).filter (·.token != token) := by
  induction records with
  | nil => rfl
  | cons record records induction =>
      cases record with
      | granted earlier =>
          have later : WatchRecord.unregistered earlier.token ∈ records ++ [.unregistered token] ↔
              .unregistered earlier.token ∈ records ∨ earlier.token = token := by simp
          simp only [List.cons_append, standing, later, induction]
          by_cases before : WatchRecord.unregistered earlier.token ∈ records
          · rw [if_pos (.inl before), if_pos before]
          · by_cases equal : earlier.token = token
            · rw [if_pos (.inr equal), if_neg before, List.filter_cons_of_neg (by simpa using equal)]
            · rw [if_neg (by simp [before, equal]), if_neg before,
                List.filter_cons_of_pos (by simpa using equal)]
      | refused failure => exact induction
      | unregistered token => exact induction

theorem tokens_standing_sublist (records : List WatchRecord) :
    ((standing records).map (·.token)).Sublist (issued records) := by
  induction records with
  | nil => exact .slnil
  | cons record records induction =>
      cases record with
      | granted watch =>
          have first : issued (.granted watch :: records) = watch.token :: issued records := rfl
          rw [first, standing]
          split
          · exact induction.cons _
          · exact induction.cons_cons _
      | refused failure => exact induction
      | unregistered token => exact induction

end WatchRecord

/-! ## A registry and its books -/

namespace WatchRegistry

def take (registry : WatchRegistry) : WatchCall → WatchRecord × WatchRegistry
  | .register directory refusal =>
      match registry.register directory refusal with
      | (.ok token, after) => (.granted { token, directory }, after)
      | (.error failure, after) => (.refused failure, after)
  | .unregister _ token => (.unregistered (.ofWord token), registry.unregister (.ofWord token))

theorem nextToken_take (registry : WatchRegistry) (call : WatchCall) :
    (registry.take call).2.nextToken = registry.nextToken + if call.draws then 1 else 0 := by
  rcases call with ⟨directory, _ | failure⟩ | ⟨directory, token⟩
  · rfl
  · rfl
  · rfl

theorem nextToken_takeAll (registry : WatchRegistry) (calls : List WatchCall) :
    (WatchCall.takeAll take registry calls).2.nextToken =
      registry.nextToken + calls.countP (·.draws) := by
  induction calls generalizing registry with
  | nil => rfl
  | cons call calls induction =>
      rw [WatchCall.takeAll, List.countP_cons, Nat.add_comm (calls.countP _), ← Nat.add_assoc,
        ← nextToken_take]
      exact induction (registry.take call).2

def directory? (registry : WatchRegistry) (token : WatchToken) : Option String :=
  (registry.watches.find? (·.token == token)).map (·.directory)

theorem mem_tokens_iff (registry : WatchRegistry) {token : WatchToken} :
    token ∈ registry.watches.map (·.token) ↔ (registry.directory? token).isSome = true := by
  rw [directory?, Option.isSome_map, List.find?_isSome, List.mem_map]
  simp only [beq_iff_eq]

open WatchRecord

structure IsBooked (registry : WatchRegistry) (records : List WatchRecord) : Prop where
  watches_eq : registry.watches = standing records
  issued_lt : ∀ token ∈ issued records, token.id < registry.nextToken
  increasing : (issued records).Pairwise (·.id < ·.id)

theorem empty_isBooked : empty.IsBooked [] where
  watches_eq := rfl
  issued_lt := by simp [issued]
  increasing := .nil

namespace IsBooked

variable {registry : WatchRegistry} {records : List WatchRecord} (booked : registry.IsBooked records)

include booked

theorem grant (directory : String) :
    (registry.grant directory).IsBooked
      (records ++ [.granted { token := registry.upcoming, directory }]) where
  watches_eq := by
    rw [standing_concat records (by simp), ← booked.watches_eq]
    rfl
  issued_lt := by
    rw [issued_concat]
    intro token member
    rcases List.mem_append.mp member with before | last
    · exact Nat.lt_succ_of_lt (booked.issued_lt token before)
    · rw [List.mem_singleton.mp last]
      exact Nat.lt_succ_self _
  increasing := by
    rw [issued_concat, List.pairwise_append]
    refine ⟨booked.increasing, List.pairwise_singleton _ _, ?_⟩
    intro token before last member
    rw [List.mem_singleton.mp member]
    exact booked.issued_lt token before

private theorem unissued {after : WatchRegistry} {record : WatchRecord}
    (nothing : record.issued? = none) (later : registry.nextToken ≤ after.nextToken)
    (watches : after.watches = standing (records ++ [record])) :
    after.IsBooked (records ++ [record]) where
  watches_eq := watches
  issued_lt := by
    rw [issued_concat, nothing, Option.toList_none, List.append_nil]
    intro token member
    exact Nat.lt_of_lt_of_le (booked.issued_lt token member) later
  increasing := by
    rw [issued_concat, nothing, Option.toList_none, List.append_nil]
    exact booked.increasing

theorem refuse (failure : Failure) :
    registry.refuse.IsBooked (records ++ [.refused failure]) := by
  apply booked.unissued rfl (Nat.le_succ _)
  rw [standing_concat records (by simp), ← booked.watches_eq]
  exact (List.append_nil _).symm

theorem unregister (token : WatchToken) :
    (registry.unregister token).IsBooked (records ++ [.unregistered token]) := by
  refine booked.unissued rfl (Nat.le_refl registry.nextToken) ?_
  rw [standing_concat_unregistered, ← booked.watches_eq]
  rfl

theorem take (call : WatchCall) :
    (registry.take call).2.IsBooked (records ++ [(registry.take call).1]) := by
  cases call with
  | register directory refusal =>
      cases refusal with
      | none => exact booked.grant directory
      | some failure => exact booked.refuse failure
  | unregister directory token => exact booked.unregister (.ofWord token)

theorem takeAll (calls : List WatchCall) :
    (WatchCall.takeAll WatchRegistry.take registry calls).2.IsBooked
      (records ++ (WatchCall.takeAll WatchRegistry.take registry calls).1) := by
  induction calls generalizing registry records with
  | nil =>
      rw [WatchCall.takeAll, List.append_nil]
      exact booked
  | cons call calls induction =>
      rw [WatchCall.takeAll, List.append_cons]
      exact induction (booked.take call)

theorem nodup_tokens : (registry.watches.map (·.token)).Nodup := by
  rw [booked.watches_eq]
  apply (tokens_standing_sublist records).nodup
  apply booked.increasing.imp
  intro token later before equal
  exact Nat.ne_of_lt before (congrArg WatchToken.id equal)

private theorem token_lt {watch : Watch} (live : watch ∈ registry.watches) :
    watch.token.id < registry.nextToken := by
  apply booked.issued_lt
  apply (tokens_standing_sublist records).subset
  rw [← booked.watches_eq]
  exact List.mem_map_of_mem live

theorem directory?_eq_some_iff {token : WatchToken} {directory : String} :
    registry.directory? token = some directory ↔ { token, directory } ∈ registry.watches := by
  rw [directory?, Option.map_eq_some_iff]
  constructor
  · rintro ⟨watch, found, rfl⟩
    have same : watch.token = token := by simpa using List.find?_some found
    exact same ▸ List.mem_of_find?_eq_some found
  · intro live
    have found : (registry.watches.find? (·.token == token)).isSome = true :=
      List.find?_isSome.mpr ⟨_, live, beq_self_eq_true token⟩
    rcases Option.isSome_iff_exists.mp found with ⟨watch, equal⟩
    have same : watch.token = token := by simpa using List.find?_some equal
    have member := List.mem_of_find?_eq_some equal
    have unique : watch = { token, directory } :=
      List.inj_on_of_nodup_map booked.nodup_tokens member live same
    exact ⟨watch, equal, congrArg Watch.directory unique⟩

private theorem directory?_upcoming : registry.directory? registry.upcoming = none := by
  rw [directory?, Option.map_eq_none_iff, List.find?_eq_none]
  intro watch live equal
  rw [beq_iff_eq] at equal
  exact absurd (booked.token_lt live) (by rw [equal]; exact Nat.lt_irrefl _)

theorem directory?_grant (directory : String) (token : WatchToken) :
    (registry.grant directory).directory? token =
      if token = registry.upcoming then some directory else registry.directory? token := by
  rw [directory?, WatchRegistry.grant, List.find?_append]
  by_cases equal : token = registry.upcoming
  · subst equal
    have nothing := Option.map_eq_none_iff.mp booked.directory?_upcoming
    rw [nothing, if_pos rfl]
    simp
  · have other : [({ token := registry.upcoming, directory } : Watch)].find? (·.token == token) =
        none := by
      simp [Ne.symm equal]
    rw [other, Option.or_none, if_neg equal, directory?]

end IsBooked

theorem directory?_unregister (registry : WatchRegistry) (token other : WatchToken) :
    (registry.unregister token).directory? other =
      if other = token then none else registry.directory? other := by
  rw [directory?, unregister, List.find?_filter]
  by_cases equal : other = token
  · subst equal
    have nothing : registry.watches.find?
        (fun watch => decide ((watch.token != other) = true ∧ (watch.token == other) = true)) =
          none := by
      simp
    rw [nothing, if_pos rfl, Option.map_none]
  · rw [if_neg equal, directory?]
    congr 2
    funext watch
    by_cases same : watch.token = other <;> simp [same, equal]

/-- What is known of a registry after calls with these records: the tokens that were
returned, the watches that are live, and what one more call does to them. -/
structure KeepsBooks (registry : WatchRegistry) (records : List WatchRecord) : Prop where
  /-- Every token is greater than all that were returned before it. -/
  increasing : (issued records).Pairwise (·.id < ·.id)
  distinct : ((standing records).map (·.token)).Nodup
  active_eq : registry.active = (standing records).length
  live_iff : ∀ token directory,
    registry.directory? token = some directory ↔ { token, directory } ∈ standing records
  granted : ∀ directory, ∃ token after, registry.register directory none = (.ok token, after) ∧
    (∀ earlier ∈ issued records, earlier.id < token.id) ∧
    ∀ other, after.directory? other =
      if other = token then some directory else registry.directory? other
  refused : ∀ directory failure, ∃ after,
    registry.register directory (some failure) = (.error failure, after) ∧
      after.watches = registry.watches
  /-- A watch is withdrawn by its own token, and by no other. -/
  withdrawn : ∀ token other, (registry.unregister token).directory? other =
    if other = token then none else registry.directory? other
  stale : ∀ token, registry.directory? token = none →
    (registry.unregister token).watches = registry.watches

private theorem watches_unregister_of_none {registry : WatchRegistry} {token : WatchToken}
    (nothing : registry.directory? token = none) :
    (registry.unregister token).watches = registry.watches := by
  rw [directory?, Option.map_eq_none_iff, List.find?_eq_none] at nothing
  apply List.filter_eq_self.mpr
  intro watch live
  simpa using nothing watch live

theorem IsBooked.keepsBooks {registry : WatchRegistry} {records : List WatchRecord}
    (booked : registry.IsBooked records) : registry.KeepsBooks records where
  increasing := booked.increasing
  distinct := booked.watches_eq ▸ booked.nodup_tokens
  active_eq := by rw [active, booked.watches_eq]
  live_iff := by
    intro token directory
    rw [← booked.watches_eq]
    exact booked.directory?_eq_some_iff
  granted := by
    intro directory
    exact ⟨_, _, rfl, booked.issued_lt, booked.directory?_grant directory⟩
  refused := fun _ _ => ⟨_, rfl, rfl⟩
  withdrawn := directory?_unregister registry
  stale := fun _ => watches_unregister_of_none

end WatchRegistry

/-! ## Words for tokens -/

/-- Watches as a program keeps them: a counter that begins anew behind the last word, and
a map from tokens to the directories that are watched. -/
structure WatchTable where
  nextToken : UInt64
  watchers : Std.HashMap UInt64 String

namespace WatchTable

def empty : WatchTable := { nextToken := 0, watchers := ∅ }

def active (table : WatchTable) : Nat :=
  table.watchers.size

def register (table : WatchTable) (directory : String) (refusal : Option Failure) :
    Except Failure UInt64 × WatchTable :=
  let token := table.nextToken
  let drawn := { table with nextToken := token + 1 }
  match refusal with
  | some failure => (.error failure, drawn)
  | none => (.ok token, { drawn with watchers := table.watchers.insert token directory })

def unregister (table : WatchTable) (token : UInt64) : WatchTable :=
  { table with watchers := table.watchers.erase token }

def take (table : WatchTable) : WatchCall → WatchRecord × WatchTable
  | .register directory refusal =>
      match table.register directory refusal with
      | (.ok token, after) => (.granted { token := .ofWord token, directory }, after)
      | (.error failure, after) => (.refused failure, after)
  | .unregister _ token => (.unregistered (.ofWord token), table.unregister token)

/-- A table with the watches of a registry, whose counter has not begun anew. -/
structure Holds (table : WatchTable) (registry : WatchRegistry) : Prop where
  next_eq : .ofWord table.nextToken = registry.upcoming
  watched : ∀ word, table.watchers[word]? = registry.directory? (.ofWord word)

theorem empty_holds : empty.Holds .empty where
  next_eq := rfl
  watched := by
    intro word
    exact Std.HashMap.getElem?_empty

namespace Holds

variable {table : WatchTable} {registry : WatchRegistry} {records : List WatchRecord}
  (held : table.Holds registry)

include held

private theorem ofWord_succ (room : registry.nextToken + 1 < UInt64.size) :
    .ofWord (table.nextToken + 1) = ({ id := registry.nextToken + 1 } : WatchToken) := by
  have next : table.nextToken.toNat = registry.nextToken := congrArg WatchToken.id held.next_eq
  rw [WatchToken.ofWord, UInt64.toNat_add, next]
  exact congrArg WatchToken.mk (Nat.mod_eq_of_lt room)

theorem take (booked : registry.IsBooked records) {call : WatchCall}
    (room : call.draws = true → registry.nextToken + 1 < UInt64.size) :
    (table.take call).1 = (registry.take call).1 ∧
      (table.take call).2.Holds (registry.take call).2 := by
  cases call with
  | register directory refusal =>
      cases refusal with
      | none =>
          have record : WatchRecord.granted { token := .ofWord table.nextToken, directory } =
              .granted { token := registry.upcoming, directory } := by
            rw [held.next_eq]
          refine ⟨record, held.ofWord_succ (room rfl), ?_⟩
          intro word
          change (table.watchers.insert table.nextToken directory)[word]? =
            (registry.grant directory).directory? (.ofWord word)
          rw [Std.HashMap.getElem?_insert, booked.directory?_grant, ← held.next_eq,
            ← held.watched]
          simp only [beq_iff_eq, WatchToken.ofWord_inj, eq_comm (a := word)]
      | some failure => exact ⟨rfl, held.ofWord_succ (room rfl), held.watched⟩
  | unregister directory token =>
      refine ⟨rfl, held.next_eq, ?_⟩
      intro word
      change (table.watchers.erase token)[word]? =
        (registry.unregister (.ofWord token)).directory? (.ofWord word)
      rw [Std.HashMap.getElem?_erase, WatchRegistry.directory?_unregister, ← held.watched]
      simp only [beq_iff_eq, WatchToken.ofWord_inj, eq_comm (a := word)]

theorem takeAll (booked : registry.IsBooked records) {calls : List WatchCall}
    (room : registry.nextToken + calls.countP (·.draws) < UInt64.size) :
    (WatchCall.takeAll WatchTable.take table calls).1 =
        (WatchCall.takeAll WatchRegistry.take registry calls).1 ∧
      (WatchCall.takeAll WatchTable.take table calls).2.Holds
        (WatchCall.takeAll WatchRegistry.take registry calls).2 := by
  induction calls generalizing table registry records with
  | nil => exact ⟨rfl, held⟩
  | cons call calls induction =>
      rw [List.countP_cons] at room
      have drawn := registry.nextToken_take call
      have enough : call.draws = true → registry.nextToken + 1 < UInt64.size := by
        intro draws
        rw [if_pos draws] at room
        omega
      rcases held.take booked enough with ⟨record, stillHeld⟩
      rcases induction stillHeld (booked.take call) (by omega) with ⟨others, finallyHeld⟩
      exact ⟨List.cons_eq_cons.mpr ⟨record, others⟩, finallyHeld⟩

theorem active_eq (booked : registry.IsBooked records) (room : registry.nextToken < UInt64.size) :
    table.active = registry.active := by
  have distinct : (table.watchers.keys.map WatchToken.ofWord).Nodup :=
    Std.HashMap.nodup_keys.map fun _ _ equal => WatchToken.ofWord_inj.mp equal
  have same (token : WatchToken) : token ∈ table.watchers.keys.map WatchToken.ofWord ↔
      token ∈ registry.watches.map (·.token) := by
    rw [List.mem_map]
    constructor
    · rintro ⟨word, key, rfl⟩
      rw [WatchRegistry.mem_tokens_iff, ← held.watched]
      exact Std.HashMap.isSome_getElem?_iff_mem.mpr (Std.HashMap.mem_keys.mp key)
    · intro live
      rcases List.mem_map.mp live with ⟨watch, member, rfl⟩
      have small := Nat.lt_trans (booked.token_lt member) room
      have word : .ofWord (UInt64.ofNat watch.token.id) = watch.token :=
        congrArg WatchToken.mk (UInt64.toNat_ofNat_of_lt small)
      refine ⟨UInt64.ofNat watch.token.id, Std.HashMap.mem_keys.mpr ?_, word⟩
      rw [← Std.HashMap.isSome_getElem?_iff_mem, held.watched, word]
      exact registry.mem_tokens_iff.mp live
  have permuted := (List.perm_ext_iff_of_nodup distinct booked.nodup_tokens).mpr same
  have lengths := permuted.length_eq
  rwa [List.length_map, List.length_map, Std.HashMap.length_keys] at lengths

end Holds

end WatchTable

/-! ## Any calls -/

/-- After any calls with fewer registrations than there are words, granted or refused, every
token that was returned is greater than those before it; the live watches are those that
were granted and not unregistered since, and as many are active; a registration that is
refused and a token that is not live change nothing; and a token withdraws its own watch
only, whichever directories were named. Until then, a program that has words for tokens
returns the same and keeps the same. -/
theorem WatchRegistry.takeAll_keepsBooks (calls : List WatchCall)
    (fewer : calls.countP (·.draws) < UInt64.size) :
    let told := WatchCall.takeAll WatchRegistry.take .empty calls
    let kept := WatchCall.takeAll WatchTable.take .empty calls
    told.2.KeepsBooks told.1 ∧
      kept.1 = told.1 ∧
      kept.2.active = told.2.active ∧
      ∀ word, kept.2.watchers[word]? = told.2.directory? (.ofWord word) := by
  intro told kept
  have booked : told.2.IsBooked told.1 := empty_isBooked.takeAll calls
  have room : WatchRegistry.empty.nextToken + calls.countP (·.draws) < UInt64.size := by
    rwa [show WatchRegistry.empty.nextToken = 0 from rfl, Nat.zero_add]
  rcases WatchTable.empty_holds.takeAll empty_isBooked room with ⟨records, held⟩
  have drawn : told.2.nextToken < UInt64.size := by
    rwa [← nextToken_takeAll] at room
  exact ⟨booked.keepsBooks, records, held.active_eq booked drawn, held.watched⟩

/-- A token that is not issued yet, one that is given back twice with another directory than
its own, and a registration that is refused, beside two watches of one directory. -/
theorem WatchRegistry.takeAll_keepsBooks_again :
    let refusal := Failure.watch "No such file or directory"
    let calls : List WatchCall := [
      .unregister "log" 2, .register "log" none, .register "missing" (some refusal),
      .register "log" none, .unregister "other" 0, .unregister "log" 0]
    let told := WatchCall.takeAll WatchRegistry.take .empty calls
    let kept := WatchCall.takeAll WatchTable.take .empty calls
    calls.countP (·.draws) < UInt64.size ∧
      WatchRecord.standing told.1 = [{ token := { id := 2 }, directory := "log" }] ∧
      told.2.KeepsBooks told.1 ∧
      kept.1 = told.1 ∧
      kept.2.active = told.2.active ∧
      ∀ word, kept.2.watchers[word]? = told.2.directory? (.ofWord word) := by
  intro refusal calls told kept
  have fewer : calls.countP (·.draws) < UInt64.size := by decide
  exact ⟨fewer, by decide, takeAll_keepsBooks calls fewer⟩

end ReceiverLog
