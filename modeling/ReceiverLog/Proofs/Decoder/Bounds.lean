import ReceiverLog.Proofs.Decoder.Fragments
import ReceiverLog.Proofs.Decoder.Listing

namespace ReceiverLog

/-! How much a decoder can hold. What it carries over is no more than the longest body
with its markers and one check digit; and of each talker, whose name is two letters or
digits, it knows a bounded number of satellites, all different. However much has been
decoded, and whatever it was. -/

/-! ## Rosters -/

namespace Roster

structure IsBounded (roster : Roster) : Prop where
  short : roster.length ≤ rosterCapacity
  distinct : (roster.map (·.prn)).Nodup

private theorem map_prn_update (roster : Roster) (satellite : Satellite) :
    (roster.update satellite).map (·.prn) = roster.map (·.prn) := by
  rw [update, List.map_map]
  apply List.map_congr_left
  intro listed _
  by_cases equal : listed.prn = satellite.prn <;> simp [equal]

private theorem lists_eq_false_iff {roster : Roster} {prn : UInt16} :
    roster.lists prn = false ↔ prn ∉ roster.map (·.prn) := by
  simp [lists]

namespace IsBounded

theorem nil : IsBounded [] :=
  ⟨Nat.zero_le _, .nil⟩

variable {roster : Roster}

theorem enter (bounded : roster.IsBounded) (satellite : Satellite) :
    (roster.enter satellite).1.IsBounded := by
  rw [Roster.enter]
  cases listed : roster.lists satellite.prn with
  | true =>
      refine ⟨?_, ?_⟩
      · simpa [update] using bounded.short
      · simpa [map_prn_update] using bounded.distinct
  | false =>
      by_cases room : roster.length < rosterCapacity
      · have new := lists_eq_false_iff.mp listed
        rw [if_neg Bool.false_ne_true, if_pos room]
        refine ⟨?_, ?_⟩
        · rw [List.length_append]
          exact room
        · rw [List.map_append, List.map_singleton, List.nodup_append]
          refine ⟨bounded.distinct, List.nodup_cons.mpr ⟨List.not_mem_nil, .nil⟩, ?_⟩
          intro prn member other single
          rw [List.mem_singleton.mp single]
          rintro rfl
          exact new member
      · rw [if_neg Bool.false_ne_true, if_neg room]
        exact bounded

theorem enterAll (bounded : roster.IsBounded) (satellites : List Satellite) :
    (roster.enterAll satellites).1.IsBounded := by
  induction satellites generalizing roster with
  | nil => exact bounded
  | cons satellite rest induction => exact induction (bounded.enter satellite)

end IsBounded

end Roster

/-- The name of a talker: two ASCII letters or digits. -/
def IsTalker (name : String) : Prop :=
  name.toList.length = 2 ∧ name.toList.all Char.isAlphanum = true

instance (name : String) : Decidable (IsTalker name) :=
  inferInstanceAs (Decidable (name.toList.length = 2 ∧ name.toList.all Char.isAlphanum = true))

namespace Rosters

structure AreBounded (rosters : Rosters) : Prop where
  distinct : (rosters.map (·.1)).Nodup
  talkers : ∀ entry ∈ rosters, IsTalker entry.1
  bounded : ∀ entry ∈ rosters, entry.2.IsBounded

theorem of_eq_nil_or_mem (rosters : Rosters) (talker : String) :
    rosters.of talker = [] ∨ (talker, rosters.of talker) ∈ rosters := by
  induction rosters with
  | nil => exact .inl rfl
  | cons entry rest induction =>
      rcases entry with ⟨name, listed⟩
      by_cases equal : name = talker
      · subst equal
        right
        simp [of]
      · simp only [of, if_neg equal]
        exact induction.imp_right (List.mem_cons_of_mem _)

theorem mem_set {rosters : Rosters} {talker : String} {roster : Roster} {entry : String × Roster}
    (member : entry ∈ rosters.set talker roster) :
    entry = (talker, roster) ∨ entry ∈ rosters := by
  induction rosters with
  | nil => exact .inl (List.mem_singleton.mp member)
  | cons first rest induction =>
      rcases first with ⟨name, listed⟩
      rw [set] at member
      split at member
      · rcases List.mem_cons.mp member with rfl | inside
        · exact .inl rfl
        · exact .inr (List.mem_cons_of_mem _ inside)
      · rcases List.mem_cons.mp member with rfl | inside
        · exact .inr List.mem_cons_self
        · exact (induction inside).imp_right (List.mem_cons_of_mem _)

private theorem nodup_set {rosters : Rosters} (distinct : (rosters.map (·.1)).Nodup)
    (talker : String) (roster : Roster) : ((rosters.set talker roster).map (·.1)).Nodup := by
  induction rosters with
  | nil => simp [set]
  | cons first rest induction =>
      rcases first with ⟨name, listed⟩
      rw [List.map_cons, List.nodup_cons] at distinct
      by_cases equal : name = talker
      · subst equal
        simpa [set] using distinct
      · rw [set, if_neg equal, List.map_cons, List.nodup_cons]
        refine ⟨?_, induction distinct.2⟩
        intro inside
        rcases List.mem_map.mp inside with ⟨entry, member, same⟩
        rcases mem_set member with rfl | member
        · exact equal same.symm
        · exact distinct.1 (List.mem_map.mpr ⟨entry, member, same⟩)

namespace AreBounded

theorem nil : AreBounded [] :=
  ⟨.nil, nofun, nofun⟩

variable {rosters : Rosters}

theorem of (bounded : rosters.AreBounded) (talker : String) :
    (rosters.of talker).IsBounded := by
  rcases rosters.of_eq_nil_or_mem talker with nothing | member
  · rw [nothing]
    exact .nil
  · exact bounded.bounded _ member

theorem set (bounded : rosters.AreBounded) {talker : String} (isTalker : IsTalker talker)
    {roster : Roster} (rosterBounded : roster.IsBounded) :
    (rosters.set talker roster).AreBounded where
  distinct := nodup_set bounded.distinct talker roster
  talkers := by
    intro entry member
    rcases mem_set member with rfl | member
    · exact isTalker
    · exact bounded.talkers entry member
  bounded := by
    intro entry member
    rcases mem_set member with rfl | member
    · exact rosterBounded
    · exact bounded.bounded entry member

end AreBounded

end Rosters

/-! ## Sentences -/

private theorem Address.isTalker_of_read? {text : List Char} {address : Address}
    (read : Address.read? text = some address) : IsTalker address.talker := by
  unfold Address.read? at read
  split at read
  · next shape =>
      rcases Option.map_eq_some_iff.mp read with ⟨kind, _, rfl⟩
      simp only [IsTalker, String.toList_ofList, List.length_take, List.all_eq_true] at shape ⊢
      refine ⟨by omega, ?_⟩
      intro character member
      exact shape.2 character (List.mem_of_mem_take member)
  · cases read

theorem Rosters.AreBounded.read {rosters updated : Rosters} {body : List Char}
    {sentence : Sentence} (bounded : rosters.AreBounded)
    (accepted : Sentence.read rosters body = .ok (sentence, updated)) :
    updated.AreBounded := by
  rcases Sentence.read_rosters accepted with
    ⟨data, rfl, rfl, addressed, entered⟩ | ⟨_, rfl⟩
  · refine bounded.set (Address.isTalker_of_read? addressed) ?_
    have before : Roster.IsBounded (if data.number ≤ 1 then [] else rosters.of data.talker) := by
      split
      · exact .nil
      · exact bounded.of data.talker
    have after := before.enterAll (Satellite.listedIn ((Text.split ',' body).drop 4))
    rw [← entered] at after
    exact after
  · exact bounded

/-! ## Decoding -/

namespace Rosters.AreBounded

variable {rosters : Rosters}

theorem settle (bounded : rosters.AreBounded) (frame : Frame) (rest : List UInt8) :
    (frame.settle rosters rest).2.1.AreBounded := by
  rw [Frame.settle]
  cases decoded : frame.decode rosters with
  | error reason => exact bounded
  | ok result => exact bounded.read (Frame.read_of_decode decoded)

theorem scan (bounded : rosters.AreBounded) (bytes : List UInt8) :
    (Decoder.scan rosters bytes).2.rosters.AreBounded := by
  induction rosters, bytes using Decoder.scan_induction with
  | silent rosters bytes silent =>
      rw [Decoder.scan_silent silent]
      exact bounded
  | undecided rosters bytes fragment undecided =>
      rw [Decoder.scan_undecided undecided]
      exact bounded
  | broken rosters bytes reason rest broken induction =>
      rw [Decoder.scan_broken broken]
      exact induction bounded
  | complete rosters bytes frame rest complete induction =>
      rw [Decoder.scan_complete complete]
      exact induction (bounded.settle frame rest)

end Rosters.AreBounded

private theorem IsFragment.length_le_carried {carry : List UInt8} (fragment : IsFragment carry) :
    carry.length ≤ longestBody + 3 := by
  cases fragment with
  | nothing => exact Nat.zero_le _
  | openBody _ short =>
      rw [List.length_cons]
      omega
  | openDigits _ short few =>
      rw [List.length_cons, List.length_append, List.length_cons]
      omega

namespace Decoder

variable {decoder : Decoder}

theorem Reachable.rosters_areBounded (reachable : decoder.Reachable) :
    decoder.rosters.AreBounded := by
  induction reachable with
  | fresh => exact .nil
  | reset => exact .nil
  | @feed decoder after buffer length outcomes _ fed induction =>
      rcases Nat.lt_or_ge buffer.length length with beyond | within
      · rw [feed_rejected beyond] at fed
        cases fed
      · rw [feed_accepted within, Decoder.decode] at fed
        injection fed with decoded
        have bounded := induction.scan (decoder.carry ++ buffer.take length)
        rw [decoded] at bounded
        exact bounded

/-- Whatever has been fed and however often everything was forgotten, what is carried over
is nothing or an open fragment, and the rosters are bounded. -/
theorem Reachable.isBounded (reachable : decoder.Reachable) :
    IsFragment decoder.carry ∧ decoder.pending ≤ 259 ∧ decoder.rosters.AreBounded := by
  have fragment := reachable.isResting.isFragment
  exact ⟨fragment, fragment.length_le_carried, reachable.rosters_areBounded⟩

/-- Two satellites of a talker are known, and a start marker is carried over in the place
of a check digit. -/
theorem isBounded_carrying :
    let decoder := (fresh.decode (Text.utf8 "$GPGSV,2,1,2,1,,,,2,,,*4B$A*$")).2
    decoder.Reachable ∧ decoder.pending = 4 ∧ (decoder.rosters.of "GP").length = 2 ∧
      IsFragment decoder.carry ∧ decoder.pending ≤ 259 ∧ decoder.rosters.AreBounded := by
  intro decoder
  have reachable : decoder.Reachable := .decode .fresh _
  exact ⟨reachable, by decide +kernel, by decide +kernel, reachable.isBounded⟩

end Decoder

end ReceiverLog
