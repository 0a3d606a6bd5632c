import ReceiverLog.Proofs.Decoder.Grammar

namespace ReceiverLog

/-! Fragments that are carried over, and what a frame comes to that follows one. The
fragment is given up, and the frame is decoded as if nothing had come before it. Only if
it falls into the place of the check digits of a frame that is not ASCII, it is passed
over with that one. -/

/-! ## What is carried over -/

inductive IsFragment : List UInt8 → Prop
  | nothing : IsFragment []
  | openBody {body : List UInt8} :
      IsBody body → body.length ≤ longestBody → IsFragment (startMarker :: body)
  | openDigits {body digits : List UInt8} :
      IsBody body → body.length ≤ longestBody → digits.length < 2 →
      IsFragment (startMarker :: (body ++ star :: digits))

theorem Framing.Stands.isFragment {bytes fragment : List UInt8}
    (stands : Stands bytes (.undecided fragment)) : IsFragment fragment := by
  cases stands with
  | openBody _ isBody short => exact .openBody isBody short
  | openDigits _ isBody short few => exact .openDigits isBody short few

theorem Decoder.IsResting.isFragment {decoder : Decoder} (resting : decoder.IsResting) :
    IsFragment decoder.carry := by
  rw [IsResting, decode, List.append_nil] at resting
  cases found : Framing.of decoder.carry with
  | silent =>
      rw [scan_silent found, Prod.mk.injEq] at resting
      rw [← resting.2]
      exact .nothing
  | undecided fragment =>
      rw [scan_undecided found, Prod.mk.injEq] at resting
      rw [← resting.2]
      exact (Framing.of_eq_iff.mp found).isFragment
  | broken reason rest =>
      rw [scan_broken found, Prod.mk.injEq] at resting
      cases resting.1
  | complete frame rest =>
      rw [scan_complete found, Prod.mk.injEq] at resting
      cases resting.1

/-! ## Frames with one start marker -/

namespace Frame

theorem bytes_eq (frame : Frame) :
    frame.bytes = startMarker :: (frame.body ++ star :: [frame.first, frame.second]) := by
  simp [bytes]

/-- A frame that can be made out in a stream, whatever stands in the place of its check
digits. -/
structure IsShort (frame : Frame) : Prop where
  isBody : IsBody frame.body
  short : frame.body.length ≤ longestBody

theorem IsShort.of_start {frame : Frame} (isShort : frame.IsShort) (rest : List UInt8) :
    Framing.of (frame.bytes ++ rest) = .complete frame rest := by
  have stands := Framing.Stands.complete frame.first frame.second rest List.not_mem_nil
    isShort.isBody isShort.short
  simpa [bytes] using stands.of_eq

structure IsFramed (frame : Frame) : Prop extends frame.IsShort where
  unmarked : startMarker ∉ [frame.first, frame.second]

theorem IsFramed.of_checkByte? {frame : Frame} {value : UInt8} (isBody : IsBody frame.body)
    (short : frame.body.length ≤ longestBody)
    (read : Number.checkByte? (characters [frame.first, frame.second]) = some value) :
    frame.IsFramed where
  isBody := isBody
  short := short
  unmarked := by
    rcases ne_startMarker_of_checkByte? read with ⟨firstDifferent, secondDifferent⟩
    simp [firstDifferent.symm, secondDifferent.symm]

/-- Bytes of which all up to a frame are given up for some reasons, and the frame is
decoded as if it came alone. -/
def Resumes (frame : Frame) (rosters : Rosters) (bytes : List UInt8) : Prop :=
  ∃ reasons : List Malformed, Decoder.scan rosters bytes =
    (reasons.map .malformed ++ (Decoder.scan rosters frame.bytes).1,
      (Decoder.scan rosters frame.bytes).2)

namespace Resumes

variable {frame : Frame}

theorem broken {rosters : Rosters} {bytes rest : List UInt8} {reason : Malformed}
    (broken : Framing.of bytes = .broken reason rest)
    (resumes : frame.Resumes rosters rest) : frame.Resumes rosters bytes := by
  rcases resumes with ⟨reasons, scanned⟩
  exact ⟨reason :: reasons, by rw [Decoder.scan_broken broken, scanned]; rfl⟩

theorem behind_quiet {quiet : List UInt8} (isQuiet : startMarker ∉ quiet)
    (rosters : Rosters) : frame.Resumes rosters (quiet ++ frame.bytes) :=
  ⟨[], Decoder.scan_congr (Framing.of_quiet_append isQuiet frame.bytes)⟩

theorem behind_body {body : List UInt8} (isBody : IsBody body) (rosters : Rosters) :
    frame.Resumes rosters (startMarker :: body ++ frame.bytes) := by
  have stands := Framing.Stands.truncated (frame.body ++ star :: [frame.first, frame.second])
    List.not_mem_nil isBody
  rw [List.nil_append, ← bytes_eq] at stands
  exact .broken stands.of_eq (behind_quiet List.not_mem_nil rosters)

private theorem behind_digits {digits : List UInt8} (few : digits.length < 2) (rosters : Rosters) :
    frame.Resumes rosters (digits ++ frame.bytes) := by
  by_cases member : startMarker ∈ digits
  · match digits, few with
    | [digit], _ =>
        rw [List.mem_singleton] at member
        subst member
        exact behind_body .nil rosters
  · exact behind_quiet member rosters

end Resumes

namespace IsFramed

variable {frame : Frame} (framed : frame.IsFramed)

include framed

theorem quiet : startMarker ∉ frame.body ++ star :: [frame.first, frame.second] := by
  rw [List.mem_append, List.mem_cons, not_or, not_or]
  exact ⟨framed.isBody.startMarker_notMem, star_ne_startMarker.symm, framed.unmarked⟩

private theorem of_bytes : Framing.of frame.bytes = .complete frame [] := by
  have complete := framed.toIsShort.of_start []
  rwa [List.append_nil] at complete

theorem scan_alone (rosters : Rosters) :
    Decoder.scan rosters frame.bytes =
      ([(frame.settle rosters []).1], { carry := [], rosters := (frame.settle rosters []).2.1 }) := by
  have quiet : startMarker ∉ (frame.settle rosters []).2.2 := by
    unfold settle
    split
    · exact List.not_mem_nil
    · unfold resume
      split
      · exact framed.unmarked
      · exact List.not_mem_nil
  rw [Decoder.scan_complete framed.of_bytes, Decoder.scan_silent (Framing.of_quiet quiet)]

private theorem exists_digits {digits : List UInt8} (few : digits.length < 2) :
    ∃ first second rest, digits ++ frame.bytes = first :: second :: rest ∧
      digits ⊆ [first, second] ∧ (first = startMarker ∨ second = startMarker) ∧
      startMarker ∉ rest := by
  have quiet := framed.quiet
  rw [bytes_eq]
  match digits, few with
  | [], _ =>
      rcases split : frame.body ++ star :: [frame.first, frame.second] with _ | ⟨second, rest⟩
      · simp at split
      · rw [split, List.mem_cons, not_or] at quiet
        exact ⟨startMarker, second, rest, rfl, List.nil_subset _, .inl rfl, quiet.2⟩
  | [digit], _ => exact ⟨digit, startMarker, _, rfl, by simp, .inr rfl, quiet⟩

/-- A fragment with its star takes check digits from the frame that follows. With them it
is ASCII and looked at again from there on, or it is not ASCII and all is passed over. -/
theorem resumes_or_passes {body : List UInt8} (isBody : IsBody body)
    (short : body.length ≤ longestBody) {digits : List UInt8} (few : digits.length < 2)
    (rosters : Rosters) :
    ∃ first second rest, digits ++ frame.bytes = first :: second :: rest ∧
      digits ⊆ [first, second] ∧
      let whole := startMarker :: (body ++ star :: digits) ++ frame.bytes
      if (bytes { body, first, second }).all isAscii then frame.Resumes rosters whole
      else Decoder.scan rosters whole = ([.malformed .notAscii], { carry := [], rosters }) := by
  rcases framed.exists_digits few with ⟨first, second, rest, split, among, marked, quiet⟩
  refine ⟨first, second, rest, split, among, ?_⟩
  intro whole
  have wholeEqual : whole = startMarker :: (body ++ star :: first :: second :: rest) := by
    simp [whole, ← split]
  have complete := (Framing.Stands.complete first second rest List.not_mem_nil isBody short).of_eq
  rw [List.nil_append, ← wholeEqual] at complete
  split
  · next ascii =>
      rcases decode_cases ascii rosters with ⟨_, invalid⟩ | ⟨expected, read, _⟩
      · have resumes : frame.Resumes rosters (digits ++ frame.bytes) :=
          .behind_digits few rosters
        rcases resumes with ⟨reasons, behind⟩
        refine ⟨.invalidChecksum (characters [first, second]) :: reasons, ?_⟩
        rw [Decoder.scan_complete complete, settle, invalid]
        dsimp only [resume]
        rw [← split, behind]
        rfl
      · rcases ne_startMarker_of_checkByte? read with ⟨firstDifferent, secondDifferent⟩
        rcases marked with equal | equal
        · exact absurd equal firstDifferent
        · exact absurd equal secondDifferent
  · next notAscii =>
      have refused : decode rosters { body, first, second } = .error .notAscii := by
        simp [decode, notAscii]
      rw [Decoder.scan_complete complete, settle, refused]
      dsimp only [resume]
      rw [Decoder.scan_silent (Framing.of_quiet quiet)]

theorem resumes_behind {carry : List UInt8} (fragment : IsFragment carry) (rosters : Rosters) :
    frame.Resumes rosters (carry ++ frame.bytes) ∨
      Decoder.scan rosters (carry ++ frame.bytes) =
        ([.malformed .notAscii], { carry := [], rosters }) := by
  cases fragment with
  | nothing => exact .inl (.behind_quiet List.not_mem_nil rosters)
  | openBody isBody _ => exact .inl (.behind_body isBody rosters)
  | openDigits isBody short few =>
      rcases framed.resumes_or_passes isBody short few rosters with ⟨_, _, _, _, _, either⟩
      split at either
      · exact .inl either
      · exact .inr either

end IsFramed

end Frame

end ReceiverLog
