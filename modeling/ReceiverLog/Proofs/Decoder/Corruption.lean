import ReceiverLog.Proofs.Decoder.Fragments
import ReceiverLog.Text.Bytes

namespace ReceiverLog

/-! A frame with one wrong byte in its body is never accepted. The check value of a body
tells any two values of any one byte apart; and whatever has been carried over, no part
of the wrong frame can be taken for a frame of its own. -/

/-! ## Check values -/

private theorem foldl_xor_inj (bytes : List UInt8) {left right : UInt8} :
    bytes.foldl (· ^^^ ·) left = bytes.foldl (· ^^^ ·) right ↔ left = right := by
  induction bytes generalizing left right with
  | nil => rfl
  | cons byte bytes induction =>
      rw [List.foldl_cons, List.foldl_cons, induction, UInt8.xor_left_inj]

theorem checksum_inj (before after : List UInt8) {left right : UInt8} :
    checksum (before ++ left :: after) = checksum (before ++ right :: after) ↔ left = right := by
  rw [checksum_append, checksum_append, List.foldl_cons, List.foldl_cons, foldl_xor_inj,
    UInt8.xor_right_inj]

/-! ## Decoding that accepts nothing -/

/-- All outcomes are rejections, and the rosters are what they were. -/
structure Refuses (rosters : Rosters) (decoding : List Outcome × Decoder) : Prop where
  rejected : ∀ outcome ∈ decoding.1, ∃ reason, outcome = .malformed reason
  rosters_eq : decoding.2.rosters = rosters

theorem Outcome.AllAgree.rejected {left right : List Outcome} (agree : AllAgree left right)
    (rejected : ∀ outcome ∈ right, ∃ reason, outcome = .malformed reason) :
    ∀ outcome ∈ left, ∃ reason, outcome = .malformed reason := by
  induction agree with
  | nil => exact rejected
  | @cons outcome other _ _ agrees _ induction =>
      rw [List.forall_mem_cons] at rejected ⊢
      refine ⟨?_, induction rejected.2⟩
      rcases agrees with rfl | ⟨overrun, _⟩
      · exact rejected.1
      · cases outcome with
        | malformed reason => exact ⟨reason, rfl⟩
        | sentence sentence raw => cases overrun

namespace Refuses

variable {rosters : Rosters}

theorem of_agree {left right : List Outcome × Decoder} (refuses : Refuses rosters right)
    (agree : Decoder.Agree left right) : Refuses rosters left where
  rejected := agree.1.rejected refuses.rejected
  rosters_eq := by rw [agree.2, refuses.rosters_eq]

theorem resumed {frame : Frame} {bytes : List UInt8}
    (refuses : Refuses rosters (Decoder.scan rosters frame.bytes))
    (resumes : frame.Resumes rosters bytes) : Refuses rosters (Decoder.scan rosters bytes) := by
  rcases resumes with ⟨reasons, scanned⟩
  rw [scanned]
  refine ⟨?_, refuses.rosters_eq⟩
  intro outcome member
  rcases List.mem_append.mp member with given | told
  · rcases List.mem_map.mp given with ⟨reason, _, rfl⟩
    exact ⟨reason, rfl⟩
  · exact refuses.rejected outcome told

theorem passed (carry : List UInt8) :
    Refuses rosters ([.malformed .notAscii], { carry, rosters }) where
  rejected := by
    intro outcome member
    exact ⟨_, List.mem_singleton.mp member⟩
  rosters_eq := rfl

end Refuses

/-! ## Frames whose check value is another -/

namespace Frame

variable {frame : Frame} {value : UInt8}

private theorem exists_decode_error
    (read : Number.checkByte? (characters [frame.first, frame.second]) = some value)
    (different : value ≠ checksum frame.body) (rosters : Rosters) :
    ∃ reason, frame.decode rosters = .error reason := by
  cases ascii : frame.bytes.all isAscii with
  | false => exact ⟨.notAscii, by simp [decode, ascii]⟩
  | true =>
      rcases decode_cases ascii rosters with
        ⟨unread, _⟩ | ⟨expected, readAs, ⟨_, mismatch⟩ | ⟨equal, _⟩⟩
      · cases unread.symm.trans read
      · exact ⟨_, mismatch⟩
      · cases readAs.symm.trans read
        exact absurd equal different

theorem IsFramed.refuses (framed : frame.IsFramed)
    (read : Number.checkByte? (characters [frame.first, frame.second]) = some value)
    (different : value ≠ checksum frame.body) (rosters : Rosters) :
    Refuses rosters (Decoder.scan rosters frame.bytes) := by
  rcases exists_decode_error read different rosters with ⟨reason, rejected⟩
  rw [framed.scan_alone, settle, rejected]
  exact ⟨fun outcome member => ⟨reason, List.mem_singleton.mp member⟩, rfl⟩

end Frame

/-! ## Wrong bytes -/

theorem IsBody.replace {before after : List UInt8} {original changed : UInt8}
    (isBody : IsBody (before ++ original :: after)) (unmarked : isMarker changed = false) :
    IsBody (before ++ changed :: after) := by
  intro byte member
  rcases List.mem_append.mp member with inside | inside
  · exact isBody byte (List.mem_append_left _ inside)
  rcases List.mem_cons.mp inside with rfl | inside
  · exact unmarked
  · exact isBody byte (List.mem_append_right _ (List.mem_cons_of_mem _ inside))

namespace Decoder

/-- Of a frame with good check digits, one byte of the body is replaced by another that
is no marker. Whatever has been decoded before, and whether the frame comes at once or in
pieces, no sentence is accepted and no talker's satellites change. -/
theorem feed_replaced_refuses {decoder : Decoder} (reachable : decoder.Reachable)
    {before after : List UInt8} {original changed first second : UInt8}
    (isBody : IsBody (before ++ original :: after))
    (short : (before ++ original :: after).length ≤ longestBody)
    (checked : Number.checkByte? (Frame.characters [first, second]) =
      some (checksum (before ++ original :: after)))
    (different : changed ≠ original) (unmarked : isMarker changed = false) :
    let bytes := Frame.bytes { body := before ++ changed :: after, first, second }
    (∃ outcomes next, decoder.feed bytes bytes.length = .ok (outcomes, next) ∧
        Refuses decoder.rosters (outcomes, next)) ∧
      ∀ calls : List Feed, calls.flatMap Feed.bytes = bytes →
        Refuses decoder.rosters (decoder.feedAll calls) := by
  let frame : Frame := { body := before ++ changed :: after, first, second }
  have shortFrame : frame.body.length ≤ longestBody := by simpa [frame] using short
  have framed : frame.IsFramed := .of_checkByte? (isBody.replace unmarked) shortFrame checked
  have otherValue : checksum (before ++ original :: after) ≠ checksum frame.body :=
    mt (checksum_inj before after).mp different.symm
  have refuses : Refuses decoder.rosters (decoder.decode frame.bytes) := by
    rcases framed.resumes_behind reachable.isResting.isFragment decoder.rosters with
      resumes | passes
    · exact (framed.refuses checked otherValue decoder.rosters).resumed resumes
    · rw [decode, passes]
      exact .passed []
  refine ⟨⟨_, _, ?_, refuses⟩, ?_⟩
  · rw [feed_accepted (Nat.le_refl _), List.take_length]
    rfl
  · intro calls stream
    have agree := reachable.isResting.feedAll_agree calls
    rw [stream] at agree
    exact refuses.of_agree agree

/-- A start marker and a wrong byte that is not ASCII fall into the place of the check
digits of a fragment, in a decoder that knows of a satellite. -/
theorem feed_replaced_refuses_digits :
    let decoder := (fresh.decode (Text.utf8 "$GPGSV,1,1,1,9,,,*71$A*")).2
    let bytes := Frame.bytes { body := [] ++ 255 :: [66], first := 48, second := 48 }
    decoder.Reachable ∧ decoder.carry = Text.utf8 "$A*" ∧ decoder.rosters.length = 1 ∧
      Number.checkByte? (Frame.characters [48, 48]) = some (checksum ([] ++ 66 :: [66])) ∧
      (∃ outcomes next, decoder.feed bytes bytes.length = .ok (outcomes, next) ∧
        Refuses decoder.rosters (outcomes, next)) ∧
      ∀ calls : List Feed, calls.flatMap Feed.bytes = bytes →
        Refuses decoder.rosters (decoder.feedAll calls) := by
  intro decoder bytes
  have reachable : decoder.Reachable := .decode .fresh _
  have checked : Number.checkByte? (Frame.characters [48, 48]) =
      some (checksum ([] ++ 66 :: [66])) := by decide
  refine ⟨reachable, by decide +kernel, by decide +kernel, checked, ?_⟩
  exact feed_replaced_refuses reachable (by decide +kernel) (by decide) checked (by decide)
    (by decide)

end Decoder

end ReceiverLog
