import ReceiverLog.Proofs.Decoder.Fragments

namespace ReceiverLog

/-! Decoding resumes at the next start marker. Whatever came before, a decoder
carries over no more than an open fragment, and the valid frame that follows it is
accepted. There is one exception. Of a frame that is not ASCII the check digits are
passed over unread, also when the start marker of the next frame stands among
them; that frame is lost, but not the one behind it. -/

/-! ## Fragments that hide what follows -/

/-- A fragment with its star that is not ASCII. Its check digits will not be looked
at, whatever they are. -/
def IsBlind (carry : List UInt8) : Prop :=
  star ∈ carry ∧ ∃ byte ∈ carry, Frame.isAscii byte = false

instance (carry : List UInt8) : Decidable (IsBlind carry) :=
  inferInstanceAs (Decidable (star ∈ carry ∧ ∃ byte ∈ carry, Frame.isAscii byte = false))

theorem IsBody.not_isBlind {body : List UInt8} (isBody : IsBody body) :
    ¬IsBlind (startMarker :: body) := by
  rintro ⟨member, _⟩
  rcases List.mem_cons.mp member with equal | member
  · exact star_ne_startMarker equal
  · have notMarker := isBody star member
    rw [isMarker_star] at notMarker
    cases notMarker

/-! ## A valid frame -/

namespace Frame

def EndsDecoding (frame : Frame) (decoding : List Outcome × Decoder) : Prop :=
  decoding.2.carry = [] ∧
    ∃ earlier sentence, decoding.1 = earlier ++ [.sentence sentence frame.text]

theorem EndsDecoding.resumed {frame : Frame} {rosters : Rosters} {bytes : List UInt8}
    (ends : frame.EndsDecoding (Decoder.scan rosters frame.bytes))
    (resumes : frame.Resumes rosters bytes) :
    frame.EndsDecoding (Decoder.scan rosters bytes) := by
  rcases ends with ⟨nothing, earlier, sentence, told⟩
  rcases resumes with ⟨reasons, scanned⟩
  refine ⟨by rw [scanned, nothing], reasons.map .malformed ++ earlier, sentence, ?_⟩
  rw [scanned, told, List.append_assoc]

theorem IsValid.isFramed {frame : Frame} (valid : frame.IsValid) : frame.IsFramed :=
  .of_checkByte? valid.isBody valid.short valid.checked

section

variable {frame : Frame} (valid : frame.IsValid)
  (ascii : frame.bytes.all isAscii = true)

include ascii

theorem isBlind_iff {body digits rest : List UInt8} {first second : UInt8}
    (split : digits ++ frame.bytes = first :: second :: rest) (among : digits ⊆ [first, second]) :
    IsBlind (startMarker :: (body ++ star :: digits)) ↔
      ¬(bytes { body, first, second }).all isAscii = true := by
  have within : startMarker :: (body ++ star :: digits) ⊆ bytes { body, first, second } := by
    rw [bytes_eq]
    exact List.cons_subset_cons _ (List.append_subset_of_subset_of_subset
      (List.subset_append_left _ _)
      (List.subset_append_of_subset_right _ (List.cons_subset_cons _ among)))
  have around : bytes { body, first, second } ⊆
      startMarker :: (body ++ star :: digits) ++ frame.bytes := by
    rw [bytes_eq, List.cons_append, List.append_assoc, List.cons_append, split]
    simp
  rw [List.all_eq_true]
  constructor
  · rintro ⟨_, byte, member, notAscii⟩ allAscii
    rw [allAscii byte (within member)] at notAscii
    cases notAscii
  · intro notAll
    push Not at notAll
    rcases notAll with ⟨byte, member, notAscii⟩
    refine ⟨by simp, byte, ?_, Bool.not_eq_true _ ▸ notAscii⟩
    rcases List.mem_append.mp (around member) with before | inside
    · exact before
    · exact absurd (List.all_eq_true.mp ascii byte inside) notAscii

include valid

theorem IsValid.scan (rosters : Rosters) :
    frame.EndsDecoding (Decoder.scan rosters frame.bytes) := by
  have accepted := (isOk_decode_iff ascii rosters).mpr ⟨valid.checked, valid.readable⟩
  rw [valid.isFramed.scan_alone, settle]
  cases decoded : frame.decode rosters with
  | error reason =>
      rw [decoded] at accepted
      cases accepted
  | ok result => exact ⟨rfl, [], result.1, rfl⟩

private theorem IsValid.scan_behind_star {body : List UInt8} (isBody : IsBody body)
    (short : body.length ≤ longestBody) {digits : List UInt8} (few : digits.length < 2)
    (rosters : Rosters) :
    let carry := startMarker :: (body ++ star :: digits)
    (¬IsBlind carry → frame.EndsDecoding (Decoder.scan rosters (carry ++ frame.bytes))) ∧
      (IsBlind carry → Decoder.scan rosters (carry ++ frame.bytes) =
        ([.malformed .notAscii], { carry := [], rosters })) := by
  intro carry
  rcases valid.isFramed.resumes_or_passes isBody short few rosters with
    ⟨first, second, rest, split, among, either⟩
  rw [isBlind_iff ascii split among, not_not]
  constructor
  · intro brokenAscii
    rw [if_pos brokenAscii] at either
    exact (valid.scan ascii rosters).resumed either
  · intro notAscii
    rw [if_neg notAscii] at either
    exact either

end

end Frame

namespace Decoder

variable {decoder : Decoder} {frame : Frame}

theorem decode_frame (fragment : IsFragment decoder.carry) (valid : frame.IsValid)
    (ascii : frame.bytes.all Frame.isAscii = true) :
    (¬IsBlind decoder.carry → frame.EndsDecoding (decoder.decode frame.bytes)) ∧
      (IsBlind decoder.carry →
        decoder.decode frame.bytes = ([.malformed .notAscii], { decoder with carry := [] })) := by
  rw [decode]
  generalize decoder.carry = carry at fragment
  have alone := valid.scan ascii decoder.rosters
  cases fragment with
  | nothing =>
      exact ⟨fun _ => alone, fun blind => absurd blind.1 List.not_mem_nil⟩
  | openBody isBody _ =>
      exact ⟨fun _ => alone.resumed (.behind_body isBody _),
        fun blind => absurd blind isBody.not_isBlind⟩
  | openDigits isBody short few => exact valid.scan_behind_star ascii isBody short few _

/-- Whatever has been fed before, a valid frame is the last thing that is told of,
exactly when no blind fragment was carried over. Then the frame is lost, but nothing
of it is carried over in turn, so that the next one is told of. -/
theorem feed_frame_accepted_iff (reachable : decoder.Reachable) (valid : frame.IsValid)
    (ascii : frame.bytes.all Frame.isAscii = true) :
    ∃ outcomes after, decoder.feed frame.bytes frame.bytes.length = .ok (outcomes, after) ∧
      ((∃ sentence, outcomes.getLast? = some (.sentence sentence frame.text)) ↔
        ¬IsBlind decoder.carry) ∧
      after.carry = [] := by
  rcases decode_frame reachable.isResting.isFragment valid ascii with ⟨resumes, skips⟩
  refine ⟨(decoder.decode frame.bytes).1, (decoder.decode frame.bytes).2, ?_, ?_⟩
  · rw [feed_accepted (Nat.le_refl _), List.take_length]
  · by_cases blind : IsBlind decoder.carry
    · rw [skips blind]
      simp [blind]
    · rcases resumes blind with ⟨nothing, earlier, sentence, told⟩
      rw [told]
      simp [blind, nothing]

/-- A start marker in the place of a check digit, and the frame that begins with it. -/
theorem feed_frame_accepted_iff_digit :
    let decoder := (fresh.decode [startMarker, 65, star]).2
    let frame : Frame := { body := [66], first := 52, second := 50 }
    decoder.Reachable ∧ frame.IsValid ∧ frame.bytes.all Frame.isAscii = true ∧
      ∃ outcomes after, decoder.feed frame.bytes frame.bytes.length = .ok (outcomes, after) ∧
        ∃ sentence, outcomes.getLast? = some (.sentence sentence frame.text) := by
  intro decoder frame
  have reachable : decoder.Reachable := .decode .fresh _
  have valid : frame.IsValid := ⟨by decide +kernel, by decide, by decide, by decide⟩
  have ascii : frame.bytes.all Frame.isAscii = true := by decide
  have carried : decoder.carry = [startMarker, 65, star] := by decide +kernel
  refine ⟨reachable, valid, ascii, ?_⟩
  rcases feed_frame_accepted_iff reachable valid ascii with ⟨outcomes, after, fed, accepted, _⟩
  refine ⟨outcomes, after, fed, accepted.mpr ?_⟩
  rw [carried]
  decide

/-- The same behind a fragment with a byte that is not ASCII. -/
theorem feed_frame_lost :
    let decoder := (fresh.decode [startMarker, 255, star]).2
    let frame : Frame := { body := [66], first := 52, second := 50 }
    decoder.Reachable ∧ frame.IsValid ∧ frame.bytes.all Frame.isAscii = true ∧
      ¬∃ outcomes after sentence,
        decoder.feed frame.bytes frame.bytes.length = .ok (outcomes, after) ∧
          outcomes.getLast? = some (.sentence sentence frame.text) := by
  intro decoder frame
  have valid : frame.IsValid := ⟨by decide +kernel, by decide, by decide, by decide⟩
  have ascii : frame.bytes.all Frame.isAscii = true := by decide
  have carried : decoder.carry = [startMarker, 255, star] := by decide +kernel
  have resting : decoder.IsResting := decode_isResting fresh _
  refine ⟨.decode .fresh _, valid, ascii, ?_⟩
  rintro ⟨outcomes, after, sentence, fed, told⟩
  have blind : IsBlind decoder.carry := by
    rw [carried]
    decide
  rw [feed_accepted (Nat.le_refl _), List.take_length,
    (decode_frame resting.isFragment valid ascii).2 blind] at fed
  cases fed
  cases told

end Decoder

end ReceiverLog
