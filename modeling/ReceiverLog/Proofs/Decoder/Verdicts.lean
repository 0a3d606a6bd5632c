import ReceiverLog.Proofs.Decoder.Resuming

namespace ReceiverLog

/-! Verdicts: which start marker each outcome is about. They come in the order of the
stream, and leave out only start markers that are still open and those that a frame
passes over in the place of its check digits. Bytes that come later add verdicts behind
those that have been made. They change none of these but one on a fragment that has
become too long. -/

/-- A start marker with all that follows it in the stream, and what a decoder tells of
it that has the whole stream before it. -/
structure Verdict where
  start : List UInt8
  outcome : Outcome

namespace Decoder

def verdicts (rosters : Rosters) (bytes : List UInt8) : List Verdict :=
  let start := bytes.dropWhile (· != startMarker)
  match _ : Framing.of bytes with
  | .silent => []
  | .undecided _ => []
  | .broken reason rest => { start, outcome := .malformed reason } :: verdicts rosters rest
  | .complete frame rest =>
      let settled := frame.settle rosters rest
      { start, outcome := settled.1 } :: verdicts settled.2.1 settled.2.2
termination_by bytes.length
decreasing_by
  · exact Framing.length_lt_of_broken ‹_›
  · have settled := Frame.length_settle_le rosters frame rest
    have shorter := Framing.length_lt_of_complete ‹Framing.of bytes = _›
    omega

section

variable {rosters : Rosters} {bytes : List UInt8}

theorem verdicts_silent (silent : Framing.of bytes = .silent) : verdicts rosters bytes = [] := by
  rw [verdicts]
  split <;> simp_all

theorem verdicts_undecided {fragment : List UInt8}
    (undecided : Framing.of bytes = .undecided fragment) : verdicts rosters bytes = [] := by
  rw [verdicts]
  split <;> simp_all

theorem verdicts_broken {reason : Malformed} {rest : List UInt8}
    (broken : Framing.of bytes = .broken reason rest) :
    verdicts rosters bytes =
      { start := bytes.dropWhile (· != startMarker), outcome := .malformed reason } ::
        verdicts rosters rest := by
  rw [verdicts]
  split <;> simp_all

theorem verdicts_complete {frame : Frame} {rest : List UInt8}
    (complete : Framing.of bytes = .complete frame rest) :
    verdicts rosters bytes =
      { start := bytes.dropWhile (· != startMarker)
        outcome := (frame.settle rosters rest).1 } ::
          verdicts (frame.settle rosters rest).2.1 (frame.settle rosters rest).2.2 := by
  rw [verdicts]
  split <;> simp_all

end

theorem map_outcome_verdicts (rosters : Rosters) (bytes : List UInt8) :
    (verdicts rosters bytes).map (·.outcome) = (scan rosters bytes).1 := by
  induction rosters, bytes using scan_induction with
  | silent rosters bytes silent => rw [verdicts_silent silent, scan_silent silent]; rfl
  | undecided rosters bytes fragment undecided =>
      rw [verdicts_undecided undecided, scan_undecided undecided]; rfl
  | broken rosters bytes reason rest broken induction =>
      rw [verdicts_broken broken, scan_broken broken, List.map_cons, induction]
  | complete rosters bytes frame rest complete induction =>
      rw [verdicts_complete complete, scan_complete complete, List.map_cons, induction]

/-! ## What a verdict is about -/

theorem dropWhile_quiet_append {quiet : List UInt8} (isQuiet : startMarker ∉ quiet)
    (rest : List UInt8) :
    (quiet ++ rest).dropWhile (· != startMarker) = rest.dropWhile (· != startMarker) := by
  apply List.dropWhile_append_of_pos
  intro byte member
  have different : byte ≠ startMarker := fun equal => isQuiet (equal ▸ member)
  simpa using different

theorem verdicts_quiet_append {quiet : List UInt8} (isQuiet : startMarker ∉ quiet)
    (rosters : Rosters) (bytes : List UInt8) :
    verdicts rosters (quiet ++ bytes) = verdicts rosters bytes := by
  have same := Framing.of_quiet_append isQuiet bytes
  have start := dropWhile_quiet_append isQuiet bytes
  cases found : Framing.of bytes with
  | silent => rw [verdicts_silent found, verdicts_silent (same.trans found)]
  | undecided => rw [verdicts_undecided found, verdicts_undecided (same.trans found)]
  | broken => rw [verdicts_broken found, verdicts_broken (same.trans found), start]
  | complete => rw [verdicts_complete found, verdicts_complete (same.trans found), start]

end Decoder

theorem Frame.settle_suffix (frame : Frame) (rosters : Rosters) (rest : List UInt8) :
    (frame.settle rosters rest).2.2 <:+ frame.bytes ++ rest := by
  rcases frame.rest_settle rosters rest with equal | equal
  · rw [equal]
    exact List.suffix_append _ _
  · rw [equal]
    exact ⟨startMarker :: (frame.body ++ [star]), by simp [bytes]⟩

structure Verdict.IsOn (stream : List UInt8) (verdict : Verdict) : Prop where
  suffix : verdict.start <:+ stream
  marked : verdict.start.head? = some startMarker
  tells : ∃ rosters updated, Tells rosters verdict.start verdict.outcome updated

theorem Verdict.IsOn.of_suffix {rest stream : List UInt8} {verdict : Verdict}
    (isOn : verdict.IsOn rest) (suffix : rest <:+ stream) : verdict.IsOn stream :=
  ⟨isOn.suffix.trans suffix, isOn.marked, isOn.tells⟩

namespace Framing.Stands

private theorem dropWhile_eq {bytes : List UInt8} {framing : Framing}
    (stands : Stands bytes framing) (found : framing ≠ .silent) :
    (bytes.dropWhile (· != startMarker)).head? = some startMarker ∧
      Stands (bytes.dropWhile (· != startMarker)) framing := by
  rcases exists_quiet bytes with quiet | ⟨quiet, rest, rfl, isQuiet⟩
  · exact absurd (stands.of_eq.symm.trans (of_quiet quiet)) found
  · have reached : (quiet ++ startMarker :: rest).dropWhile (· != startMarker) =
        startMarker :: rest := by
      rw [Decoder.dropWhile_quiet_append isQuiet, List.dropWhile_cons_of_neg (by simp)]
    rw [reached]
    refine ⟨rfl, of_eq_iff.mp ?_⟩
    rw [← of_quiet_append isQuiet]
    exact stands.of_eq

end Framing.Stands

/-- A verdict that has been made before some later bytes came, and the one that is made
with them. -/
structure Verdict.Precedes (later : List UInt8) (early whole : Verdict) : Prop where
  start : whole.start = early.start ++ later
  outcome : whole.outcome = early.outcome ∨ Framing.EndsOverlong early.start

namespace Decoder

theorem verdicts_isOn (rosters : Rosters) (bytes : List UInt8) :
    ∀ verdict ∈ verdicts rosters bytes, verdict.IsOn bytes := by
  induction rosters, bytes using scan_induction with
  | silent rosters bytes silent => simp [verdicts_silent silent]
  | undecided rosters bytes fragment undecided => simp [verdicts_undecided undecided]
  | broken rosters bytes reason rest broken induction =>
      have stands := Framing.of_eq_iff.mp broken
      rcases stands.dropWhile_eq nofun with ⟨marked, startStands⟩
      rw [verdicts_broken broken, List.forall_mem_cons]
      refine ⟨⟨List.dropWhile_suffix _, marked, rosters, rosters, .broken startStands⟩, ?_⟩
      exact fun verdict member => (induction verdict member).of_suffix stands.suffix_broken
  | complete rosters bytes frame rest complete induction =>
      have stands := Framing.of_eq_iff.mp complete
      rcases stands.dropWhile_eq nofun with ⟨marked, startStands⟩
      rw [verdicts_complete complete, List.forall_mem_cons]
      refine ⟨⟨List.dropWhile_suffix _, marked, rosters, _, .complete startStands⟩, ?_⟩
      exact fun verdict member => (induction verdict member).of_suffix
        ((frame.settle_suffix rosters rest).trans stands.suffix_complete)

/-! ## Bytes that come later -/

private theorem dropWhile_append_of_found {bytes : List UInt8} {framing : Framing}
    (found : Framing.of bytes = framing) (some : framing ≠ .silent) (later : List UInt8) :
    (bytes ++ later).dropWhile (· != startMarker) =
      bytes.dropWhile (· != startMarker) ++ later := by
  rcases exists_quiet bytes with quiet | ⟨quiet, rest, rfl, isQuiet⟩
  · exact absurd (found.symm.trans (Framing.of_quiet quiet)) some
  · rw [List.append_assoc, dropWhile_quiet_append isQuiet, dropWhile_quiet_append isQuiet,
      List.cons_append, List.dropWhile_cons_of_neg (by simp),
      List.dropWhile_cons_of_neg (by simp), List.cons_append]

theorem EndsOverlong.dropWhile {bytes : List UInt8} (ends : Framing.EndsOverlong bytes) :
    Framing.EndsOverlong (bytes.dropWhile (· != startMarker)) := by
  rcases ends with ⟨quiet, body, rfl, isQuiet, isBody, long⟩
  rw [dropWhile_quiet_append isQuiet, List.dropWhile_cons_of_neg (by simp)]
  exact ⟨[], body, rfl, List.not_mem_nil, isBody, long⟩

theorem verdicts_append (rosters : Rosters) (bytes later : List UInt8) :
    let after := (scan rosters bytes).2
    ∃ wholes, List.Forall₂ (Verdict.Precedes later) (verdicts rosters bytes) wholes ∧
      verdicts rosters (bytes ++ later)
        = wholes ++ verdicts after.rosters (after.carry ++ later) := by
  induction rosters, bytes using scan_induction with
  | silent rosters bytes silent =>
      rw [scan_silent silent, verdicts_silent silent]
      cases Framing.of_eq_iff.mp silent with
      | silent quiet => exact ⟨[], .nil, verdicts_quiet_append quiet rosters later⟩
  | undecided rosters bytes fragment undecided =>
      rw [scan_undecided undecided, verdicts_undecided undecided]
      refine ⟨[], .nil, ?_⟩
      cases Framing.of_eq_iff.mp undecided with
      | openBody quiet _ _ =>
          rw [List.append_assoc]
          exact verdicts_quiet_append quiet rosters _
      | openDigits quiet _ _ _ =>
          rw [List.append_assoc]
          exact verdicts_quiet_append quiet rosters _
  | broken rosters bytes reason rest broken induction =>
      rcases Framing.of_append_broken broken later with
        ⟨other, next, passed, found, _, same, split, quiet⟩
      rcases induction with ⟨wholes, precede, equal⟩
      rw [split, verdicts_quiet_append quiet] at equal
      rw [scan_broken broken, verdicts_broken broken, verdicts_broken found, equal]
      refine ⟨_ :: wholes, .cons ?_ precede, rfl⟩
      refine ⟨dropWhile_append_of_found broken nofun later, ?_⟩
      rcases same with rfl | ends
      · exact .inl rfl
      · exact .inr (EndsOverlong.dropWhile ends)
  | complete rosters bytes frame rest complete induction =>
      have found := Framing.of_append_complete complete later
      rcases induction with ⟨wholes, precede, equal⟩
      rw [scan_complete complete, verdicts_complete complete, verdicts_complete found,
        Frame.settle_append]
      dsimp only
      rw [equal]
      refine ⟨_ :: wholes, .cons ?_ precede, rfl⟩
      exact ⟨dropWhile_append_of_found complete nofun later, .inl rfl⟩

end Decoder

/-! ## Start markers that are told of -/

/-- A start marker in the place of a check digit of a frame that is not ASCII. It is
passed over with that frame. -/
def Verdict.Swallows (verdict : Verdict) (start : List UInt8) : Prop :=
  ∃ frame rest, Framing.of verdict.start = .complete frame rest ∧
    frame.bytes.all Frame.isAscii = false ∧
    (start = frame.first :: frame.second :: rest ∨ start = frame.second :: rest)

theorem eq_dropWhile_of_starts {bytes start : List UInt8} {others : List (List UInt8)}
    (split : starts bytes = start :: others) : start = bytes.dropWhile (· != startMarker) := by
  rcases exists_quiet bytes with quiet | ⟨quiet, rest, rfl, isQuiet⟩
  · rw [starts_quiet quiet] at split
    cases split
  · rw [starts_quiet_append isQuiet, starts_cons_startMarker, List.cons.injEq] at split
    rw [Decoder.dropWhile_quiet_append isQuiet, List.dropWhile_cons_of_neg (by simp), split.1]

theorem starts_settle_or (frame : Frame) (rosters : Rosters) (rest : List UInt8) :
    starts (frame.settle rosters rest).2.2 = starts (frame.first :: frame.second :: rest) ∨
      (frame.bytes.all Frame.isAscii = false ∧ (frame.settle rosters rest).2.2 = rest) := by
  cases ascii : frame.bytes.all Frame.isAscii with
  | true => exact .inl (starts_settle ascii rosters rest)
  | false =>
      refine .inr ⟨rfl, ?_⟩
      simp [Frame.settle, Frame.decode, ascii, Frame.resume]

private theorem starts_sublist_cons (byte : UInt8) (rest : List UInt8) :
    (starts rest).Sublist (starts (byte :: rest)) := by
  rw [starts, starts, List.tails_cons]
  exact (List.sublist_cons_self _ _).filter _

namespace Decoder

theorem sublist_starts (rosters : Rosters) (bytes : List UInt8) :
    ((verdicts rosters bytes).map (·.start)).Sublist (starts bytes) := by
  induction rosters, bytes using scan_induction with
  | silent rosters bytes silent => simp [verdicts_silent silent]
  | undecided rosters bytes fragment undecided => simp [verdicts_undecided undecided]
  | broken rosters bytes reason rest broken induction =>
      rcases (Framing.of_eq_iff.mp broken).starts_broken with ⟨start, split, _⟩
      rw [verdicts_broken broken, List.map_cons, split, eq_dropWhile_of_starts split]
      exact induction.cons_cons _
  | complete rosters bytes frame rest complete induction =>
      rcases (Framing.of_eq_iff.mp complete).starts_complete with ⟨start, split, _⟩
      rw [verdicts_complete complete, List.map_cons, split, eq_dropWhile_of_starts split]
      refine (induction.trans ?_).cons_cons _
      rcases starts_settle_or frame rosters rest with same | ⟨_, same⟩
      · rw [same]
      · rw [same]
        exact (starts_sublist_cons _ _).trans (starts_sublist_cons _ _)

/-- No start marker is left out but those that are still open, and those that a frame
passes over. -/
theorem told_or_swallowed (rosters : Rosters) (bytes : List UInt8) :
    ∀ start ∈ starts bytes, IsOpen start ∨
      ∃ verdict ∈ verdicts rosters bytes, verdict.start = start ∨ verdict.Swallows start := by
  induction rosters, bytes using scan_induction with
  | silent rosters bytes silent =>
      cases Framing.of_eq_iff.mp silent with
      | silent quiet => simp [starts_quiet quiet]
  | undecided rosters bytes fragment undecided =>
      rcases (Framing.of_eq_iff.mp undecided).starts_undecided with ⟨others, split, allOpen⟩
      rw [split]
      exact fun start member => .inl (allOpen start member)
  | broken rosters bytes reason rest broken induction =>
      rcases (Framing.of_eq_iff.mp broken).starts_broken with ⟨first, split, _⟩
      rw [verdicts_broken broken, split, eq_dropWhile_of_starts split, List.forall_mem_cons]
      refine ⟨.inr ⟨_, List.mem_cons_self, .inl rfl⟩, ?_⟩
      intro start member
      refine (induction start member).imp_right ?_
      rintro ⟨verdict, told, about⟩
      exact ⟨verdict, List.mem_cons_of_mem _ told, about⟩
  | complete rosters bytes frame rest complete induction =>
      rcases (Framing.of_eq_iff.mp complete).starts_complete with ⟨first, split, firstStands⟩
      rw [verdicts_complete complete, split, ← eq_dropWhile_of_starts split, List.forall_mem_cons]
      refine ⟨.inr ⟨_, List.mem_cons_self, .inl rfl⟩, ?_⟩
      intro start member
      have later (first : Verdict) (inside : start ∈ starts (frame.settle rosters rest).2.2) :
          IsOpen start ∨ ∃ verdict ∈ first :: verdicts (frame.settle rosters rest).2.1
            (frame.settle rosters rest).2.2, verdict.start = start ∨ verdict.Swallows start := by
        refine (induction start inside).imp_right ?_
        rintro ⟨verdict, told, about⟩
        exact ⟨verdict, List.mem_cons_of_mem _ told, about⟩
      rcases starts_settle_or frame rosters rest with same | ⟨notAscii, same⟩
      · exact later _ (same ▸ member)
      · rcases mem_starts.mp member with ⟨suffix, marked⟩
        rcases List.suffix_cons_iff.mp suffix with equal | suffix
        · exact .inr ⟨_, List.mem_cons_self, .inr ⟨frame, rest, firstStands.of_eq, notAscii,
            .inl equal⟩⟩
        rcases List.suffix_cons_iff.mp suffix with equal | suffix
        · exact .inr ⟨_, List.mem_cons_self, .inr ⟨frame, rest, firstStands.of_eq, notAscii,
            .inr equal⟩⟩
        · have inside := mem_starts.mpr ⟨suffix, marked⟩
          rw [← same] at inside
          exact later _ inside

end Decoder

end ReceiverLog
