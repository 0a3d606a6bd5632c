import Mathlib.Data.List.Forall2
import ReceiverLog.Decoder
import ReceiverLog.Proofs.Framing.Stands

namespace ReceiverLog

/-! A decoder fed in chunks. However a stream is cut, the outcomes are the same
in number and in place, and so is the decoder after them. Only a fragment that
has become too long may be found to be truncated by one cutting and too long by
another: which of the two depends on how much of it was seen at once. -/

def Malformed.isOverrun : Malformed → Bool
  | .truncated => true
  | .tooLong => true
  | _ => false

namespace Outcome

def isOverrun : Outcome → Bool
  | .malformed reason => reason.isOverrun
  | .sentence _ _ => false

/-- The same outcome, up to the reason for which a fragment was given up. -/
def Agrees (left right : Outcome) : Prop :=
  left = right ∨ (left.isOverrun = true ∧ right.isOverrun = true)

namespace Agrees

theorem refl (outcome : Outcome) : outcome.Agrees outcome :=
  .inl rfl

theorem symm {left right : Outcome} (agrees : left.Agrees right) : right.Agrees left := by
  rcases agrees with equal | ⟨leftOverrun, rightOverrun⟩
  · exact .inl equal.symm
  · exact .inr ⟨rightOverrun, leftOverrun⟩

theorem trans {first second third : Outcome} (left : first.Agrees second)
    (right : second.Agrees third) : first.Agrees third := by
  rcases left with rfl | ⟨firstOverrun, secondOverrun⟩
  · exact right
  · rcases right with rfl | ⟨_, thirdOverrun⟩
    · exact .inr ⟨firstOverrun, secondOverrun⟩
    · exact .inr ⟨firstOverrun, thirdOverrun⟩

end Agrees

def AllAgree : List Outcome → List Outcome → Prop :=
  List.Forall₂ Agrees

namespace AllAgree

theorem refl (outcomes : List Outcome) : AllAgree outcomes outcomes :=
  List.forall₂_same.mpr fun outcome _ => .refl outcome

theorem symm {left right : List Outcome} (agree : AllAgree left right) : AllAgree right left :=
  (List.Forall₂.imp (fun _ _ => Agrees.symm) agree).flip

theorem trans {first second third : List Outcome} (left : AllAgree first second)
    (right : AllAgree second third) : AllAgree first third := by
  induction left generalizing third with
  | nil => exact right
  | cons head _ induction =>
      cases right with
      | cons nextHead nextTail => exact .cons (head.trans nextHead) (induction nextTail)

theorem append {left right otherLeft otherRight : List Outcome} (agree : AllAgree left right)
    (otherAgree : AllAgree otherLeft otherRight) :
    AllAgree (left ++ otherLeft) (right ++ otherRight) :=
  List.rel_append agree otherAgree

end AllAgree

end Outcome

open Outcome (AllAgree)

namespace Framing

def EndsOverlong (bytes : List UInt8) : Prop :=
  ∃ quiet body, bytes = quiet ++ startMarker :: body ∧ startMarker ∉ quiet ∧
    IsBody body ∧ longestBody < body.length

/-- What a broken fragment comes to when more bytes follow. It is broken for the same
reason, unless its body may go on; and the next look may begin elsewhere, but it meets
the same start markers. -/
theorem of_append_broken {bytes rest : List UInt8} {reason : Malformed}
    (broken : of bytes = .broken reason rest) (later : List UInt8) :
    ∃ other next passed, of (bytes ++ later) = .broken other next ∧
      (Outcome.malformed other).Agrees (.malformed reason) ∧
      (other = reason ∨ EndsOverlong bytes) ∧
      rest ++ later = passed ++ next ∧ startMarker ∉ passed := by
  have stands := of_eq_iff.mp broken
  cases stands with
  | truncated rest quiet isBody =>
      refine ⟨_, _, [], ?_, .refl _, .inl rfl, rfl, List.not_mem_nil⟩
      simpa using (Stands.truncated (rest ++ later) quiet isBody).of_eq
  | overlongStar rest quiet isBody long =>
      refine ⟨_, _, [], ?_, .refl _, .inl rfl, rfl, List.not_mem_nil⟩
      simpa using (Stands.overlongStar (rest ++ later) quiet isBody long).of_eq
  | @overlong quiet body isQuiet isBody long =>
      -- The body goes on into the later bytes, and they decide what ends it.
      have ends : EndsOverlong (quiet ++ startMarker :: body) := ⟨_, _, rfl, isQuiet, isBody, long⟩
      rcases exists_isBody later with ⟨more, behind, rfl, isMore, shape⟩
      have isWhole := isBody.append isMore
      have wholeLong : longestBody < (body ++ more).length := by
        rw [List.length_append]
        omega
      have moreQuiet := isMore.startMarker_notMem
      rcases shape with rfl | ⟨marker, next, rfl, marked⟩
      · refine ⟨.tooLong, [], more, ?_, .refl _, .inl rfl, rfl, moreQuiet⟩
        simpa using (Stands.overlong isQuiet isWhole wholeLong).of_eq
      · rcases (isMarker_iff marker).mp marked with rfl | rfl
        · refine ⟨.truncated, startMarker :: next, more, ?_, .inr ⟨rfl, rfl⟩, .inr ends, rfl,
            moreQuiet⟩
          simpa using (Stands.truncated next isQuiet isWhole).of_eq
        · refine ⟨.tooLong, next, more ++ [star], ?_, .refl _, .inl rfl, by simp, ?_⟩
          · simpa using (Stands.overlongStar next isQuiet isWhole wholeLong).of_eq
          · simp [moreQuiet, star_ne_startMarker.symm]

theorem of_append_complete {bytes rest : List UInt8} {frame : Frame}
    (complete : of bytes = .complete frame rest) (later : List UInt8) :
    of (bytes ++ later) = .complete frame (rest ++ later) := by
  have stands := of_eq_iff.mp complete
  cases stands with
  | complete first second rest quiet isBody short =>
      simpa using (Stands.complete first second (rest ++ later) quiet isBody short).of_eq

theorem of_append_undecided {bytes fragment : List UInt8}
    (undecided : of bytes = .undecided fragment) (later : List UInt8) :
    of (bytes ++ later) = of (fragment ++ later) := by
  have stands := of_eq_iff.mp undecided
  cases stands with
  | openBody quiet _ _ => rw [List.append_assoc, of_quiet_append quiet]
  | openDigits quiet _ _ _ => rw [List.append_assoc, of_quiet_append quiet]

theorem of_append_silent {bytes : List UInt8} (silent : of bytes = .silent)
    (later : List UInt8) : of (bytes ++ later) = of later := by
  cases of_eq_iff.mp silent with
  | silent quiet => exact of_quiet_append quiet later

end Framing

theorem Frame.settle_append (frame : Frame) (rosters : Rosters) (rest later : List UInt8) :
    frame.settle rosters (rest ++ later) =
      ((frame.settle rosters rest).1, (frame.settle rosters rest).2.1,
        (frame.settle rosters rest).2.2 ++ later) := by
  simp only [settle]
  cases frame.decode rosters with
  | ok result => rfl
  | error reason => cases reason <;> rfl

namespace Decoder

/-! ## One look after the other -/

section Scan

variable {rosters : Rosters} {bytes : List UInt8}

theorem scan_silent (silent : Framing.of bytes = .silent) :
    scan rosters bytes = ([], { carry := [], rosters }) := by
  rw [scan]
  split <;> simp_all

theorem scan_undecided {fragment : List UInt8}
    (undecided : Framing.of bytes = .undecided fragment) :
    scan rosters bytes = ([], { carry := fragment, rosters }) := by
  rw [scan]
  split <;> simp_all

theorem scan_broken {reason : Malformed} {rest : List UInt8}
    (broken : Framing.of bytes = .broken reason rest) :
    scan rosters bytes = (.malformed reason :: (scan rosters rest).1, (scan rosters rest).2) := by
  rw [scan]
  split <;> simp_all

theorem scan_complete {frame : Frame} {rest : List UInt8}
    (complete : Framing.of bytes = .complete frame rest) :
    scan rosters bytes =
      ((frame.settle rosters rest).1 ::
          (scan (frame.settle rosters rest).2.1 (frame.settle rosters rest).2.2).1,
        (scan (frame.settle rosters rest).2.1 (frame.settle rosters rest).2.2).2) := by
  rw [scan]
  split <;> simp_all

theorem scan_congr {others : List UInt8} (same : Framing.of bytes = Framing.of others) :
    scan rosters bytes = scan rosters others := by
  cases found : Framing.of others with
  | silent => rw [scan_silent found, scan_silent (same.trans found)]
  | undecided => rw [scan_undecided found, scan_undecided (same.trans found)]
  | broken => rw [scan_broken found, scan_broken (same.trans found)]
  | complete => rw [scan_complete found, scan_complete (same.trans found)]

end Scan

/-- What holds of a scan, if each look hands it on from the bytes left over. -/
@[elab_as_elim]
theorem scan_induction {motive : Rosters → List UInt8 → Prop}
    (silent : ∀ rosters bytes, Framing.of bytes = .silent → motive rosters bytes)
    (undecided : ∀ rosters bytes fragment,
      Framing.of bytes = .undecided fragment → motive rosters bytes)
    (broken : ∀ rosters bytes reason rest, Framing.of bytes = .broken reason rest →
      motive rosters rest → motive rosters bytes)
    (complete : ∀ rosters bytes frame rest, Framing.of bytes = .complete frame rest →
      motive (frame.settle rosters rest).2.1 (frame.settle rosters rest).2.2 →
      motive rosters bytes)
    (rosters : Rosters) (bytes : List UInt8) : motive rosters bytes :=
  scan.induct motive silent undecided
    (fun rosters bytes reason rest found _ _ _ induction =>
      broken rosters bytes reason rest found induction)
    (fun rosters bytes frame rest found _ _ _ induction =>
      complete rosters bytes frame rest found induction) rosters bytes

def Agree (left right : List Outcome × Decoder) : Prop :=
  AllAgree left.1 right.1 ∧ left.2 = right.2

namespace Agree

theorem refl (decoding : List Outcome × Decoder) : Agree decoding decoding :=
  ⟨.refl _, rfl⟩

theorem symm {left right : List Outcome × Decoder} (agree : Agree left right) :
    Agree right left :=
  ⟨agree.1.symm, agree.2.symm⟩

theorem trans {first second third : List Outcome × Decoder} (left : Agree first second)
    (right : Agree second third) : Agree first third :=
  ⟨left.1.trans right.1, left.2.trans right.2⟩

end Agree

theorem scan_append (rosters : Rosters) (bytes later : List UInt8) :
    Agree (scan rosters (bytes ++ later))
      ((scan rosters bytes).1 ++ ((scan rosters bytes).2.decode later).1,
        ((scan rosters bytes).2.decode later).2) := by
  induction rosters, bytes using scan_induction with
  | silent rosters bytes silent =>
      rw [scan_silent silent, scan_congr (Framing.of_append_silent silent later)]
      exact .refl _
  | undecided rosters bytes fragment undecided =>
      rw [scan_undecided undecided, scan_congr (Framing.of_append_undecided undecided later)]
      exact .refl _
  | broken rosters bytes reason rest broken induction =>
      rcases Framing.of_append_broken broken later with
        ⟨other, next, passed, found, agrees, _, split, quiet⟩
      rw [split, scan_congr (Framing.of_quiet_append quiet next)] at induction
      rw [scan_broken broken, scan_broken found]
      exact ⟨.cons agrees induction.1, induction.2⟩
  | complete rosters bytes frame rest complete induction =>
      rw [scan_complete complete, scan_complete (Framing.of_append_complete complete later),
        Frame.settle_append]
      exact ⟨.cons (.refl _) induction.1, induction.2⟩

/-! ## At rest -/

/-- Without more bytes the decoder tells nothing and stays as it is. -/
def IsResting (decoder : Decoder) : Prop :=
  decoder.decode [] = ([], decoder)

theorem fresh_isResting : fresh.IsResting :=
  scan_silent (Framing.of_quiet (List.not_mem_nil))

theorem scan_isResting (rosters : Rosters) (bytes : List UInt8) :
    (scan rosters bytes).2.IsResting := by
  induction rosters, bytes using scan_induction with
  | silent rosters bytes silent =>
      rw [scan_silent silent]
      exact scan_silent (Framing.of_quiet List.not_mem_nil)
  | undecided rosters bytes fragment undecided =>
      rw [scan_undecided undecided, IsResting, decode]
      have again := Framing.of_append_undecided undecided []
      rw [List.append_nil, undecided] at again
      exact scan_undecided again.symm
  | broken rosters bytes reason rest broken induction =>
      rw [scan_broken broken]
      exact induction
  | complete rosters bytes frame rest complete induction =>
      rw [scan_complete complete]
      exact induction

theorem decode_isResting (decoder : Decoder) (bytes : List UInt8) :
    (decoder.decode bytes).2.IsResting :=
  scan_isResting decoder.rosters (decoder.carry ++ bytes)

theorem decode_append (decoder : Decoder) (bytes later : List UInt8) :
    Agree (decoder.decode (bytes ++ later))
      ((decoder.decode bytes).1 ++ ((decoder.decode bytes).2.decode later).1,
        ((decoder.decode bytes).2.decode later).2) := by
  rw [decode, ← List.append_assoc]
  exact scan_append decoder.rosters (decoder.carry ++ bytes) later

end Decoder

/-! ## Calls of a decoder -/

structure Feed where
  buffer : List UInt8
  length : Nat

/-- The bytes a call hands over. A call for more than its buffer holds is
rejected, and hands over none. -/
def Feed.bytes (feed : Feed) : List UInt8 :=
  if feed.buffer.length < feed.length then [] else feed.buffer.take feed.length

namespace Decoder

/-- Make one call after the other, going on after those that are rejected. -/
def feedAll (decoder : Decoder) : List Feed → List Outcome × Decoder
  | [] => ([], decoder)
  | call :: calls =>
      match decoder.feed call.buffer call.length with
      | .error _ => decoder.feedAll calls
      | .ok (outcomes, after) =>
          (outcomes ++ (after.feedAll calls).1, (after.feedAll calls).2)

inductive Reachable : Decoder → Prop
  | fresh : Reachable fresh
  | feed {decoder after : Decoder} {buffer : List UInt8} {length : Nat}
      {outcomes : List Outcome} :
      Reachable decoder → decoder.feed buffer length = .ok (outcomes, after) → Reachable after
  | reset {decoder : Decoder} : Reachable decoder → Reachable decoder.reset

theorem feed_rejected {decoder : Decoder} {buffer : List UInt8} {length : Nat}
    (beyond : buffer.length < length) :
    decoder.feed buffer length = .error (.lengthOutOfBounds length buffer.length) :=
  if_pos beyond

theorem feed_accepted {decoder : Decoder} {buffer : List UInt8} {length : Nat}
    (within : length ≤ buffer.length) :
    decoder.feed buffer length = .ok (decoder.decode (buffer.take length)) :=
  if_neg (Nat.not_lt.mpr within)

theorem Reachable.decode {decoder : Decoder} (reachable : decoder.Reachable) (bytes : List UInt8) :
    (decoder.decode bytes).2.Reachable := by
  have fed : decoder.feed bytes bytes.length = .ok (decoder.decode bytes) := by
    rw [feed_accepted (Nat.le_refl _), List.take_length]
  exact .feed reachable fed

theorem Reachable.isResting {decoder : Decoder} (reachable : decoder.Reachable) :
    decoder.IsResting := by
  induction reachable with
  | fresh => exact fresh_isResting
  | reset => exact fresh_isResting
  | @feed decoder after buffer length outcomes _ fed =>
      rcases Nat.lt_or_ge buffer.length length with beyond | within
      · rw [feed_rejected beyond] at fed
        cases fed
      · rw [feed_accepted within] at fed
        injection fed with decoded
        have resting := decode_isResting decoder (buffer.take length)
        rw [decoded] at resting
        exact resting

theorem IsResting.feedAll_agree {decoder : Decoder} (resting : decoder.IsResting)
    (calls : List Feed) :
    Agree (decoder.feedAll calls) (decoder.decode (calls.flatMap Feed.bytes)) := by
  induction calls generalizing decoder with
  | nil =>
      rw [List.flatMap_nil, resting]
      exact .refl _
  | cons call calls induction =>
      rw [List.flatMap_cons, feedAll, Feed.bytes]
      rcases Nat.lt_or_ge call.buffer.length call.length with beyond | within
      · rw [feed_rejected beyond, if_pos beyond]
        exact induction resting
      · rw [feed_accepted within, if_neg (Nat.not_lt.mpr within)]
        have later := induction (decode_isResting decoder (call.buffer.take call.length))
        have joined := decode_append decoder (call.buffer.take call.length)
          (calls.flatMap Feed.bytes)
        refine Agree.trans ?_ joined.symm
        exact ⟨(AllAgree.refl _).append later.1, later.2⟩

/-- Two cuttings of one stream come to the same, wherever they cut and however
many rejected calls there are among their calls. -/
theorem feedAll_agree_of_bytes_eq {decoder : Decoder} (reachable : decoder.Reachable)
    {left right : List Feed}
    (sameStream : left.flatMap Feed.bytes = right.flatMap Feed.bytes) :
    Agree (decoder.feedAll left) (decoder.feedAll right) := by
  have leftAtOnce := reachable.isResting.feedAll_agree left
  have rightAtOnce := reachable.isResting.feedAll_agree right
  rw [sameStream] at leftAtOnce
  exact leftAtOnce.trans rightAtOnce.symm

/-- A body that has become too long is seen whole by one cutting, and is given
up by the other before its end. -/
theorem feedAll_agree_overlong :
    let body : List UInt8 := List.replicate 257 65
    let whole : List Feed := [
      { buffer := startMarker :: (body ++ [startMarker]), length := body.length + 2 }]
    let cut : List Feed := [
      { buffer := startMarker :: body, length := body.length + 1 },
      { buffer := [], length := 1 }, { buffer := [startMarker, star], length := 1 }]
    fresh.Reachable ∧ whole.flatMap Feed.bytes = cut.flatMap Feed.bytes ∧
      Agree (fresh.feedAll whole) (fresh.feedAll cut) := by
  have sameStream : ∀ body : List UInt8,
      ([{ buffer := startMarker :: (body ++ [startMarker]), length := body.length + 2 }] :
        List Feed).flatMap Feed.bytes =
      ([{ buffer := startMarker :: body, length := body.length + 1 },
        { buffer := [], length := 1 }, { buffer := [startMarker, star], length := 1 }] :
        List Feed).flatMap Feed.bytes := by
    intro body
    simp [Feed.bytes, List.take_of_length_le]
  exact ⟨.fresh, sameStream _, feedAll_agree_of_bytes_eq .fresh (sameStream _)⟩

end Decoder

end ReceiverLog
