import ReceiverLog.Proofs.Decoder.Verdicts

namespace ReceiverLog

/-! Fragments that have become too long. A fragment with more than the longest body
before its next marker is told of as too long where a star follows, or nothing. Where
another start marker follows, it depends on the calls by which the stream comes: if one
of them ends within the fragment, behind its longest body, it is too long; if none does,
it is truncated. This is the only way in which outcomes depend on calls. -/

/-! ## Fragments that are too long -/

/-- Behind a start marker, more bytes than the longest body come before any other
marker. -/
def IsOverlong (start : List UInt8) : Prop :=
  ∃ body rest, start = startMarker :: (body ++ rest) ∧ IsBody body ∧ longestBody < body.length

def IsRestarted (start : List UInt8) : Prop :=
  ∃ body rest, start = startMarker :: (body ++ startMarker :: rest) ∧ IsBody body

/-- One of the calls ends behind more than the longest body of a start marker, and
before the next marker. -/
def IsCutOverlong (calls : List Feed) (start : List UInt8) : Prop :=
  ∃ before call later body, calls = before ++ call :: later ∧
    start = startMarker :: (body ++ later.flatMap Feed.bytes) ∧
    IsBody body ∧ longestBody < body.length

inductive Verdict.Told (calls : List Feed) (verdict : Verdict) : Outcome → Prop
  | early : IsCutOverlong calls verdict.start → Told calls verdict (.malformed .tooLong)
  | whole : ¬IsCutOverlong calls verdict.start → Told calls verdict verdict.outcome

theorem IsCutOverlong.isOverlong {calls : List Feed} {start : List UInt8}
    (cut : IsCutOverlong calls start) : IsOverlong start := by
  rcases cut with ⟨_, _, later, body, _, rfl, isBody, long⟩
  exact ⟨body, _, rfl, isBody, long⟩

theorem isCutOverlong_cons {call : Feed} {calls : List Feed} {start : List UInt8} :
    IsCutOverlong (call :: calls) start ↔
      (∃ body, start = startMarker :: (body ++ calls.flatMap Feed.bytes) ∧
        IsBody body ∧ longestBody < body.length) ∨ IsCutOverlong calls start := by
  constructor
  · rintro ⟨before, other, later, body, split, equal, isBody, long⟩
    cases before with
    | nil =>
        cases split
        exact .inl ⟨body, equal, isBody, long⟩
    | cons first before =>
        rw [List.cons_append, List.cons.injEq] at split
        exact .inr ⟨before, other, later, body, split.2, equal, isBody, long⟩
  · rintro (⟨body, equal, isBody, long⟩ | ⟨before, other, later, body, rfl, equal, isBody, long⟩)
    · exact ⟨[], call, calls, body, rfl, equal, isBody, long⟩
    · exact ⟨call :: before, other, later, body, rfl, equal, isBody, long⟩

theorem IsRestarted.stands {start : List UInt8} (restarted : IsRestarted start) :
    ∃ rest, Framing.Stands start (.broken .truncated rest) := by
  rcases restarted with ⟨body, rest, rfl, isBody⟩
  exact ⟨_, .truncated rest List.not_mem_nil isBody⟩

theorem IsOverlong.stands {start : List UInt8} (overlong : IsOverlong start) :
    ∃ reason rest, Framing.Stands start (.broken reason rest) ∧
      ((reason = .truncated ∧ IsRestarted start) ∨ (reason = .tooLong ∧ ¬IsRestarted start)) := by
  have notRestarted : ∀ {rest}, Framing.Stands start (.broken .tooLong rest) →
      ¬IsRestarted start := by
    intro rest stands restarted
    rcases restarted.stands with ⟨_, otherStands⟩
    cases stands.of_eq.symm.trans otherStands.of_eq
  rcases overlong with ⟨part, later, rfl, isPart, partLong⟩
  rcases exists_isBody later with ⟨more, behind, rfl, isMore, shape⟩
  have isBody := isPart.append isMore
  have long : longestBody < (part ++ more).length := by
    rw [List.length_append]
    omega
  rw [← List.append_assoc] at notRestarted ⊢
  rcases shape with rfl | ⟨marker, rest, rfl, marked⟩
  · rw [List.append_nil] at notRestarted ⊢
    have stands := Framing.Stands.overlong List.not_mem_nil isBody long
    exact ⟨_, _, stands, .inr ⟨rfl, notRestarted stands⟩⟩
  rcases (isMarker_iff marker).mp marked with rfl | rfl
  · exact ⟨_, _, .truncated rest List.not_mem_nil isBody, .inl ⟨rfl, _, _, rfl, isBody⟩⟩
  · have stands := Framing.Stands.overlongStar rest List.not_mem_nil isBody long
    exact ⟨_, _, stands, .inr ⟨rfl, notRestarted stands⟩⟩

private theorem Tells.outcome_of_broken {rosters updated : Rosters} {start rest : List UInt8}
    {outcome : Outcome} {reason : Malformed} (tells : Tells rosters start outcome updated)
    (stands : Framing.Stands start (.broken reason rest)) : outcome = .malformed reason := by
  cases tells with
  | broken otherStands =>
      cases stands.of_eq.symm.trans otherStands.of_eq
      rfl
  | complete otherStands => cases stands.of_eq.symm.trans otherStands.of_eq

theorem Tells.not_isOpen {rosters updated : Rosters} {start : List UInt8} {outcome : Outcome}
    (tells : Tells rosters start outcome updated) : ¬IsOpen start := by
  rintro ⟨fragment, stands⟩
  cases tells with
  | broken otherStands => cases stands.of_eq.symm.trans otherStands.of_eq
  | complete otherStands => cases stands.of_eq.symm.trans otherStands.of_eq

namespace Verdict.IsOn

variable {stream : List UInt8} {verdict : Verdict}

theorem outcome_of_overlong (isOn : verdict.IsOn stream) (overlong : IsOverlong verdict.start) :
    (verdict.outcome = .malformed .truncated ∧ IsRestarted verdict.start) ∨
      (verdict.outcome = .malformed .tooLong ∧ ¬IsRestarted verdict.start) := by
  rcases isOn.tells with ⟨rosters, updated, tells⟩
  rcases overlong.stands with ⟨reason, rest, stands, ⟨rfl, restarted⟩ | ⟨rfl, notRestarted⟩⟩
  · exact .inl ⟨tells.outcome_of_broken stands, restarted⟩
  · exact .inr ⟨tells.outcome_of_broken stands, notRestarted⟩

private theorem exists_start (isOn : verdict.IsOn stream) :
    ∃ rest, verdict.start = startMarker :: rest := by
  have marked := isOn.marked
  rcases shape : verdict.start with _ | ⟨byte, rest⟩
  · rw [shape] at marked
    cases marked
  · rw [shape, List.head?_cons, Option.some.injEq] at marked
    exact ⟨rest, by rw [marked]⟩

private theorem longestBody_lt (isOn : verdict.IsOn stream) {body : List UInt8}
    (start : verdict.start = startMarker :: body) (isBody : IsBody body) :
    longestBody < body.length := by
  rcases isOn.tells with ⟨rosters, updated, tells⟩
  by_contra short
  apply tells.not_isOpen
  rw [start]
  exact ⟨_, .openBody List.not_mem_nil isBody (Nat.le_of_not_lt short)⟩

theorem told_of_precedes {call : Feed} {calls : List Feed} {whole : Verdict}
    (isOn : verdict.IsOn stream) (precedes : verdict.Precedes (calls.flatMap Feed.bytes) whole) :
    whole.Told (call :: calls) verdict.outcome := by
  by_cases open? : ∃ body, verdict.start = startMarker :: body ∧ IsBody body
  · rcases open? with ⟨body, start, isBody⟩
    have long := isOn.longestBody_lt start isBody
    have overlong : IsOverlong verdict.start := ⟨body, [], by simp [start], isBody, long⟩
    have unmarked : ¬IsRestarted verdict.start := by
      rintro ⟨other, rest, restarted, _⟩
      rw [start, List.cons.injEq] at restarted
      apply isBody.startMarker_notMem
      simp [restarted.2]
    rcases isOn.outcome_of_overlong overlong with ⟨_, restarted⟩ | ⟨tooLong, _⟩
    · exact absurd restarted unmarked
    · rw [tooLong]
      refine .early (isCutOverlong_cons.mpr (.inl ⟨body, ?_, isBody, long⟩))
      rw [precedes.start, start, List.cons_append]
  · have same : whole.outcome = verdict.outcome := by
      rcases precedes.outcome with same | ⟨quiet, body, start, isQuiet, isBody, _⟩
      · exact same
      · rcases isOn.exists_start with ⟨rest, marked⟩
        cases quiet with
        | nil => exact absurd ⟨body, start, isBody⟩ open?
        | cons byte quiet =>
            rw [marked, List.cons_append, List.cons.injEq] at start
            exact absurd (start.1 ▸ List.mem_cons_self) isQuiet
    rw [← same]
    refine .whole ?_
    rw [isCutOverlong_cons]
    rintro (⟨body, equal, isBody, _⟩ | ⟨before, other, later, body, rfl, equal, isBody, _⟩)
    · rw [precedes.start, ← List.cons_append] at equal
      exact open? ⟨body, List.append_cancel_right equal, isBody⟩
    · rcases isOn.exists_start with ⟨part, start⟩
      rw [precedes.start, start, List.flatMap_append, List.flatMap_cons, ← List.append_assoc,
        ← List.append_assoc, ← List.cons_append] at equal
      have whole := List.append_cancel_right equal
      rw [List.cons_append, List.cons_append, List.cons.injEq, List.append_assoc] at whole
      refine open? ⟨part, start, ?_⟩
      intro byte member
      exact isBody byte (whole.2 ▸ List.mem_append_left _ member)

end Verdict.IsOn

/-! ## A stream in calls -/

theorem IsFragment.length_le {carry body : List UInt8} (fragment : IsFragment carry)
    (suffix : startMarker :: body <:+ carry) (isBody : IsBody body) :
    body.length ≤ longestBody := by
  cases fragment with
  | nothing => cases List.suffix_nil.mp suffix
  | openBody _ short =>
      have bound := suffix.length_le
      rw [List.length_cons, List.length_cons] at bound
      omega
  | @openDigits open_ digits _ _ few =>
      by_contra long
      have digitsSuffix : star :: digits <:+ startMarker :: (open_ ++ star :: digits) :=
        ⟨startMarker :: open_, rfl⟩
      have inside : star :: digits <:+ startMarker :: body := by
        apply List.suffix_of_suffix_length_le digitsSuffix suffix
        have bound : longestBody = 256 := rfl
        rw [List.length_cons, List.length_cons]
        omega
      rcases List.mem_cons.mp (inside.subset List.mem_cons_self) with equal | member
      · exact star_ne_startMarker equal
      · have notMarker := isBody star member
        rw [isMarker_star] at notMarker
        cases notMarker

private theorem IsFragment.isCutOverlong_cons_iff {carry start : List UInt8}
    (fragment : IsFragment carry) (call : Feed) {calls : List Feed}
    (suffix : start <:+ carry ++ calls.flatMap Feed.bytes) :
    IsCutOverlong (call :: calls) start ↔ IsCutOverlong calls start := by
  rw [isCutOverlong_cons, or_iff_right]
  rintro ⟨body, rfl, isBody, long⟩
  rcases suffix with ⟨before, equal⟩
  rw [← List.cons_append, ← List.append_assoc] at equal
  have short := fragment.length_le ⟨before, List.append_cancel_right equal⟩ isBody
  omega

namespace Decoder

private theorem IsResting.feedAll_cons {decoder : Decoder} (resting : decoder.IsResting)
    (call : Feed) (calls : List Feed) :
    (decoder.feedAll (call :: calls)).1 =
      (decoder.decode call.bytes).1 ++ ((decoder.decode call.bytes).2.feedAll calls).1 := by
  rw [feedAll, Feed.bytes]
  rcases Nat.lt_or_ge call.buffer.length call.length with beyond | within
  · rw [feed_rejected beyond, if_pos beyond, resting]
    rfl
  · rw [feed_accepted within, if_neg (Nat.not_lt.mpr within)]

theorem IsResting.told_feedAll {decoder : Decoder} (resting : decoder.IsResting)
    (calls : List Feed) :
    List.Forall₂ (Verdict.Told calls)
      (verdicts decoder.rosters (decoder.carry ++ calls.flatMap Feed.bytes))
      (decoder.feedAll calls).1 := by
  induction calls generalizing decoder with
  | nil =>
      have outcomes := map_outcome_verdicts decoder.rosters (decoder.carry ++ [])
      rw [← decode, resting, List.map_eq_nil_iff] at outcomes
      rw [List.flatMap_nil, outcomes]
      exact .nil
  | cons call calls induction =>
      let after := (decoder.decode call.bytes).2
      have afterResting : after.IsResting := decode_isResting decoder call.bytes
      let bytes := decoder.carry ++ call.bytes
      rcases verdicts_append decoder.rosters bytes (calls.flatMap Feed.bytes) with
        ⟨wholes, precede, split⟩
      rw [resting.feedAll_cons, List.flatMap_cons, ← List.append_assoc, split]
      refine List.rel_append ?_ ?_
      · -- The start markers that this call decides.
        have outcomes : (decoder.decode call.bytes).1 = _ :=
          (map_outcome_verdicts decoder.rosters bytes).symm
        rw [outcomes, List.forall₂_map_right_iff]
        refine List.Forall₂.flip ?_
        have isOn := verdicts_isOn decoder.rosters bytes
        exact ((List.forall₂_and_left _ _).mpr ⟨isOn, precede⟩).imp fun _ _ both =>
          both.1.told_of_precedes both.2
      · -- Those of the later calls.
        have isOn := verdicts_isOn after.rosters (after.carry ++ calls.flatMap Feed.bytes)
        have told := (List.forall₂_and_left _ _).mpr ⟨isOn, induction afterResting⟩
        refine told.imp fun verdict outcome both => ?_
        have same := afterResting.isFragment.isCutOverlong_cons_iff call both.1.suffix
        cases both.2 with
        | early cut => exact .early (same.mpr cut)
        | whole uncut => exact .whole (mt same.mp uncut)

end Decoder

/-! ## Two ways to cut a stream -/

/-- A fragment that is too long is told in the same way by two cuttings, unless it is
restarted and only one of them cuts it. -/
theorem Verdict.Told.eq_iff {calls others : List Feed} {stream : List UInt8} {verdict : Verdict}
    {outcome other : Outcome} (isOn : verdict.IsOn stream) (told : verdict.Told calls outcome)
    (otherTold : verdict.Told others other) :
    outcome = other ↔ (IsOverlong verdict.start → IsRestarted verdict.start →
      (IsCutOverlong calls verdict.start ↔ IsCutOverlong others verdict.start)) := by
  have differ (overlong : IsOverlong verdict.start) :
      verdict.outcome = .malformed .tooLong ↔ ¬IsRestarted verdict.start := by
    rcases isOn.outcome_of_overlong overlong with ⟨truncated, restarted⟩ | ⟨tooLong, unmarked⟩
    · simp [truncated, restarted]
    · simp [tooLong, unmarked]
  cases told with
  | early cut =>
      have overlong := cut.isOverlong
      cases otherTold with
      | early otherCut => simp [cut, otherCut]
      | whole otherUncut => simp [cut, otherUncut, overlong, ← differ overlong, eq_comm]
  | whole uncut =>
      cases otherTold with
      | early otherCut =>
          have overlong := otherCut.isOverlong
          simp [uncut, otherCut, overlong, ← differ overlong]
      | whole otherUncut => simp [uncut, otherUncut]

namespace Decoder

theorem eq_iff_of_told {calls others : List Feed} {stream : List UInt8}
    {verdicts : List Verdict} (isOn : ∀ verdict ∈ verdicts, verdict.IsOn stream)
    {left right : List Outcome} (leftTold : List.Forall₂ (Verdict.Told calls) verdicts left)
    (rightTold : List.Forall₂ (Verdict.Told others) verdicts right) :
    left = right ↔ ∀ verdict ∈ verdicts, IsOverlong verdict.start → IsRestarted verdict.start →
      (IsCutOverlong calls verdict.start ↔ IsCutOverlong others verdict.start) := by
  induction leftTold generalizing right with
  | nil =>
      cases rightTold
      simp
  | cons told _ induction =>
      cases rightTold with
      | cons otherTold rest =>
          rw [List.forall_mem_cons] at isOn ⊢
          rw [List.cons.injEq, told.eq_iff isOn.1 otherTold, induction isOn.2 rest]

/-- How a stream that comes in calls is told of, and where the calls have a say. -/
structure TellsOverruns (decoder : Decoder) (calls : List Feed) (stream : List UInt8)
    (verdicts : List Verdict) : Prop where
  told : List.Forall₂ (Verdict.Told calls) verdicts (decoder.feedAll calls).1
  ordered : (verdicts.map (·.start)).Sublist (starts stream)
  /-- Every fragment that is too long is told of, unless another frame swallows it. -/
  complete : ∀ start ∈ starts stream, IsOverlong start →
    ∃ verdict ∈ verdicts, verdict.start = start ∨ verdict.Swallows start
  /-- At once, such a fragment is too long if it is not restarted. -/
  outcome : ∀ verdict ∈ verdicts, IsOverlong verdict.start →
    (verdict.outcome = .malformed .truncated ∧ IsRestarted verdict.start) ∨
      (verdict.outcome = .malformed .tooLong ∧ ¬IsRestarted verdict.start)
  /-- Two cuttings tell the same exactly when they cut the same restarted fragments. -/
  same_iff : ∀ others : List Feed, others.flatMap Feed.bytes = calls.flatMap Feed.bytes →
    ((decoder.feedAll calls).1 = (decoder.feedAll others).1 ↔
      ∀ verdict ∈ verdicts, IsOverlong verdict.start → IsRestarted verdict.start →
        (IsCutOverlong calls verdict.start ↔ IsCutOverlong others verdict.start))

theorem Reachable.tellsOverruns {decoder : Decoder} (reachable : decoder.Reachable)
    (calls : List Feed) :
    let stream := decoder.carry ++ calls.flatMap Feed.bytes
    decoder.TellsOverruns calls stream (verdicts decoder.rosters stream) := by
  intro stream
  have isOn := verdicts_isOn decoder.rosters stream
  refine ⟨reachable.isResting.told_feedAll calls, sublist_starts _ _, ?_, ?_, ?_⟩
  · intro start member overlong
    rcases told_or_swallowed decoder.rosters stream start member with ⟨_, open_⟩ | told
    · rcases overlong.stands with ⟨_, _, stands, _⟩
      cases open_.of_eq.symm.trans stands.of_eq
    · exact told
  · exact fun verdict member => (isOn verdict member).outcome_of_overlong
  · intro others sameStream
    have otherTold := reachable.isResting.told_feedAll others
    rw [sameStream] at otherTold
    exact eq_iff_of_told isOn (reachable.isResting.told_feedAll calls) otherTold

/-- A decoder that has seen the star of a frame that is not ASCII, and behind it a
fragment that is too long by one byte. -/
theorem tellsOverruns_swallowed :
    let decoder := (fresh.decode [startMarker, 255, star]).2
    let call : Feed := { buffer := startMarker :: List.replicate 257 65, length := 258 }
    let stream := decoder.carry ++ [call].flatMap Feed.bytes
    decoder.Reachable ∧ decoder.TellsOverruns [call] stream (verdicts decoder.rosters stream) :=
  ⟨.decode .fresh _, (Reachable.decode .fresh _).tellsOverruns _⟩

/-- The same bytes, in one call and in two. A start marker that comes in the same call
truncates the fragment, however long it is. -/
theorem feedAll_restarted {body : List UInt8} (isBody : IsBody body)
    (long : longestBody < body.length) :
    let whole : List UInt8 := startMarker :: (body ++ [startMarker])
    let cut : List UInt8 := startMarker :: body
    (fresh.feedAll [{ buffer := whole, length := whole.length }]).1 = [.malformed .truncated] ∧
      (fresh.feedAll [{ buffer := cut, length := cut.length },
        { buffer := [startMarker], length := 1 }]).1 = [.malformed .tooLong] := by
  intro whole cut
  have truncated : Framing.of whole = .broken .truncated [startMarker] :=
    (Framing.Stands.truncated [] List.not_mem_nil isBody).of_eq
  have tooLong : Framing.of cut = .broken .tooLong [] :=
    (Framing.Stands.overlong List.not_mem_nil isBody long).of_eq
  have marker : Framing.of [startMarker] = .undecided [startMarker] :=
    (Framing.Stands.openBody List.not_mem_nil .nil (Nat.zero_le _)).of_eq
  have wholeDecoded : fresh.decode whole =
      ([.malformed .truncated], { carry := [startMarker], rosters := [] }) := by
    rw [show fresh.decode whole = scan [] whole from rfl, scan_broken truncated,
      scan_undecided marker]
  have cutDecoded : fresh.decode cut = ([.malformed .tooLong], fresh) := by
    rw [show fresh.decode cut = scan [] cut from rfl, scan_broken tooLong,
      scan_silent (Framing.of_quiet List.not_mem_nil)]
    rfl
  have markerDecoded : fresh.decode [startMarker] =
      ([], { carry := [startMarker], rosters := [] }) := scan_undecided marker
  constructor
  · rw [feedAll, feed_accepted (Nat.le_refl _), List.take_length, wholeDecoded]
    rfl
  · rw [feedAll, feed_accepted (Nat.le_refl _), List.take_length, cutDecoded]
    dsimp only
    rw [feedAll, feed_accepted (Nat.le_refl 1), List.take_of_length_le (Nat.le_refl 1),
      markerDecoded]
    rfl

theorem feedAll_restarted_shortest :
    let body : List UInt8 := List.replicate 257 65
    let whole : List UInt8 := startMarker :: (body ++ [startMarker])
    let cut : List UInt8 := startMarker :: body
    IsOverlong whole ∧
      (fresh.feedAll [{ buffer := whole, length := whole.length }]).1 = [.malformed .truncated] ∧
      (fresh.feedAll [{ buffer := cut, length := cut.length },
        { buffer := [startMarker], length := 1 }]).1 = [.malformed .tooLong] := by
  intro body whole cut
  have isBody : IsBody body := fun _ member => List.eq_of_mem_replicate member ▸ rfl
  have long : longestBody < body.length := by
    rw [List.length_replicate]
    decide
  exact ⟨⟨body, [startMarker], rfl, isBody, long⟩, feedAll_restarted isBody long⟩

end Decoder

end ReceiverLog
