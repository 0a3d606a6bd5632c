import ReceiverLog.Proofs.Decoder.Overruns
import ReceiverLog.Text.Bytes

namespace ReceiverLog

/-! The two bytes in the place of check digits. A frame is accepted only if they write
the check value of its body in base sixteen: as two digits, in either letter case, or as
one digit behind a plus sign. All other bytes are no check digits, and what they stand in
is rejected. -/

namespace Number

/-! ## Digits -/

def hexValue? (character : Char) : Option Nat :=
  "0123456789abcdef".toList.idxOf? character.toLower

def hexPair? (high low : Char) : Option Nat := do
  return 16 * (← hexValue? high) + (← hexValue? low)

/-- What two characters are taken for: two digits, or one digit behind a plus sign. -/
def ReadsAs (first second : Char) (value : UInt8) : Prop :=
  hexPair? first second = some value.toNat ∨
    first = '+' ∧ hexValue? second = some value.toNat

private theorem digit?_eq (byte : UInt8) :
    digit? 16 (Char.ofNat byte.toNat) = hexValue? (Char.ofNat byte.toNat) := by
  have every : ∀ code : Fin 256, digit? 16 (Char.ofNat code) = hexValue? (Char.ofNat code) := by
    decide +kernel
  exact every ⟨byte.toNat, byte.toNat_lt⟩

theorem hexValue?_lt {character : Char} {value : Nat} (read : hexValue? character = some value) :
    value < 16 := by
  rcases List.findIdx?_eq_some_iff_getElem.mp read with ⟨bound, _⟩
  exact bound

private theorem map_ofNat_filter {number : Option Nat} {value : UInt8}
    (bound : ∀ natural, number = some natural → natural < UInt8.size) :
    (number.filter (· < UInt8.size)).map UInt8.ofNat = some value ↔
      number = some value.toNat := by
  cases number with
  | none => simp
  | some natural =>
      have small : natural < UInt8.size := bound natural rfl
      rw [Option.filter_some_pos (by simpa using small), Option.map_some, Option.some.injEq,
        Option.some.injEq]
      constructor
      · rintro rfl
        exact (UInt8.toNat_ofNat_of_lt small).symm
      · rintro rfl
        exact UInt8.ofNat_toNat

private theorem hexPair?_lt {high low : Char} {value : Nat}
    (read : hexPair? high low = some value) : value < UInt8.size := by
  rcases Option.bind_eq_some_iff.mp read with ⟨left, leftRead, rest⟩
  rcases Option.bind_eq_some_iff.mp rest with ⟨right, rightRead, equal⟩
  cases equal
  have leftBound := hexValue?_lt leftRead
  have rightBound := hexValue?_lt rightRead
  rw [UInt8.size]
  omega

theorem checkByte?_eq_some_iff {first second value : UInt8} :
    checkByte? (Frame.characters [first, second]) = some value ↔
      ReadsAs (Char.ofNat first.toNat) (Char.ofNat second.toNat) value := by
  have left := digit?_eq first
  have right := digit?_eq second
  simp only [Frame.characters, List.map_cons, List.map_nil, checkByte?, ReadsAs]
  generalize Char.ofNat first.toNat = high at left ⊢
  generalize Char.ofNat second.toNat = low at right ⊢
  by_cases signed : high = '+'
  · subst signed
    have noPair : hexPair? '+' low = none := by
      simp [hexPair?, show hexValue? '+' = none by decide]
    have single : numeral? 16 UInt8.size ['+', low] =
        (hexValue? low).filter (· < UInt8.size) := by
      rw [← right]
      cases found : digit? 16 low <;> simp [numeral?, digitsFrom, found]
    rw [single, noPair, map_ofNat_filter fun _ read => Nat.lt_trans (hexValue?_lt read) (by decide)]
    simp
  · have pair : numeral? 16 UInt8.size [high, low] =
        (hexPair? high low).filter (· < UInt8.size) := by
      rw [hexPair?, ← left, ← right]
      cases leftRead : digit? 16 high <;> cases rightRead : digit? 16 low <;>
        simp [numeral?, digitsFrom, signed, leftRead, rightRead, Nat.mul_comm]
    rw [pair, map_ofNat_filter fun _ read => hexPair?_lt read]
    simp [signed]

end Number

/-! ## Check digits of a frame -/

namespace Frame

def Writes (frame : Frame) (value : UInt8) : Prop :=
  Number.ReadsAs (Char.ofNat frame.first.toNat) (Char.ofNat frame.second.toNat) value

variable {frame : Frame} (ascii : frame.bytes.all isAscii = true) (rosters : Rosters)

include ascii

theorem decode_of_not_writes (others : ∀ value, ¬frame.Writes value) :
    frame.decode rosters = .error (.invalidChecksum (characters [frame.first, frame.second])) := by
  rcases decode_cases ascii rosters with ⟨_, invalid⟩ | ⟨expected, read, _⟩
  · exact invalid
  · exact absurd (Number.checkByte?_eq_some_iff.mp read) (others expected)

theorem decode_of_writes_other {value : UInt8} (writes : frame.Writes value)
    (different : value ≠ checksum frame.body) :
    frame.decode rosters = .error (.checksumMismatch value (checksum frame.body)) := by
  have read := Number.checkByte?_eq_some_iff.mpr writes
  rcases decode_cases ascii rosters with
    ⟨unread, _⟩ | ⟨expected, readAs, ⟨_, mismatch⟩ | ⟨equal, _⟩⟩
  · cases unread.symm.trans read
  · cases readAs.symm.trans read
    exact mismatch
  · cases readAs.symm.trans read
    exact absurd equal different

omit ascii

theorem writes_of_decode {result : Sentence × Rosters}
    (accepted : frame.decode rosters = .ok result) :
    frame.bytes.all isAscii = true ∧ frame.Writes (checksum frame.body) := by
  cases ascii : frame.bytes.all isAscii with
  | false =>
      have refused : frame.decode rosters = .error .notAscii := by simp [decode, ascii]
      cases refused.symm.trans accepted
  | true =>
      have ok : (frame.decode rosters).isOk = true := by rw [accepted]; rfl
      have checked := ((isOk_decode_iff ascii rosters).mp ok).1
      exact ⟨rfl, Number.checkByte?_eq_some_iff.mp checked⟩

end Frame

/-! ## Check digits in a stream -/

/-- How the outcome that is told of a start marker bears out the check digits there. -/
structure AnswersDigits (start : List UInt8) (outcome : Outcome) : Prop where
  /-- An accepted sentence is a frame whose check digits write its check value. -/
  accepted : ∀ sentence raw, outcome = .sentence sentence raw →
    ∃ frame rest, start = Frame.bytes frame ++ rest ∧ frame.IsShort ∧ raw = frame.text ∧
      frame.bytes.all Frame.isAscii = true ∧ frame.Writes (checksum frame.body)
  /-- Other bytes are shown as digits that are none. -/
  invalid : ∀ frame rest, start = Frame.bytes frame ++ rest → frame.IsShort →
    (∀ value, ¬frame.Writes value) →
    outcome = .malformed .notAscii ∨
      outcome = .malformed (.invalidChecksum (Frame.characters [frame.first, frame.second]))
  mismatched : ∀ frame rest value, start = Frame.bytes frame ++ rest → frame.IsShort →
    frame.Writes value → value ≠ checksum frame.body →
    outcome = .malformed .notAscii ∨
      outcome = .malformed (.checksumMismatch value (checksum frame.body))

private theorem Tells.outcome_of_complete {rosters updated : Rosters} {start rest : List UInt8}
    {outcome : Outcome} {frame : Frame} (tells : Tells rosters start outcome updated)
    (complete : Framing.of start = .complete frame rest) :
    outcome = (frame.settle rosters rest).1 := by
  cases tells with
  | broken stands => cases complete.symm.trans stands.of_eq
  | complete stands =>
      cases complete.symm.trans stands.of_eq
      rfl

private theorem Tells.exists_complete {rosters updated : Rosters} {start : List UInt8}
    {outcome : Outcome} {sentence : Sentence} {raw : String}
    (tells : Tells rosters start outcome updated) (accepted : outcome = .sentence sentence raw) :
    ∃ frame rest, Framing.Stands start (.complete frame rest) := by
  cases tells with
  | broken _ => cases accepted
  | complete stands => exact ⟨_, _, stands⟩

namespace Verdict

variable {calls : List Feed} {stream : List UInt8} {verdict : Verdict} {outcome : Outcome}

theorem Told.of_frame (told : verdict.Told calls outcome) (isOn : verdict.IsOn stream)
    {frame : Frame} {rest : List UInt8} (start : verdict.start = frame.bytes ++ rest)
    (isShort : frame.IsShort) : ∃ rosters, outcome = (frame.settle rosters rest).1 := by
  have complete := isShort.of_start rest
  rw [← start] at complete
  cases told with
  | early cut =>
      rcases cut.isOverlong.stands with ⟨_, _, stands, _⟩
      cases complete.symm.trans stands.of_eq
  | whole _ =>
      rcases isOn.tells with ⟨rosters, _, tells⟩
      exact ⟨rosters, tells.outcome_of_complete complete⟩

private theorem Told.exists_frame (told : verdict.Told calls outcome) (isOn : verdict.IsOn stream)
    {sentence : Sentence} {raw : String} (accepted : outcome = .sentence sentence raw) :
    ∃ frame rest, verdict.start = Frame.bytes frame ++ rest ∧ frame.IsShort := by
  cases told with
  | early cut => cases accepted
  | whole _ =>
      rcases isOn.tells with ⟨_, _, tells⟩
      rcases tells.exists_complete accepted with ⟨frame, rest, stands⟩
      rcases stands.start_complete isOn.marked with ⟨start, isBody, short⟩
      exact ⟨frame, rest, start, isBody, short⟩

theorem Told.answersDigits (told : verdict.Told calls outcome) (isOn : verdict.IsOn stream) :
    AnswersDigits verdict.start outcome where
  accepted := by
    intro sentence raw accepted
    rcases told.exists_frame isOn accepted with ⟨frame, rest, start, isShort⟩
    rcases told.of_frame isOn start isShort with ⟨rosters, settled⟩
    refine ⟨frame, rest, start, isShort, ?_⟩
    rw [accepted, Frame.settle] at settled
    cases decoded : frame.decode rosters with
    | error reason =>
        rw [decoded] at settled
        cases settled
    | ok result =>
        rw [decoded] at settled
        cases settled
        exact ⟨rfl, frame.writes_of_decode rosters decoded⟩
  invalid := by
    intro frame rest start isShort others
    rcases told.of_frame isOn start isShort with ⟨rosters, settled⟩
    rw [settled, Frame.settle]
    cases ascii : frame.bytes.all Frame.isAscii with
    | false => exact .inl (by simp [Frame.decode, ascii])
    | true => exact .inr (by rw [frame.decode_of_not_writes ascii rosters others])
  mismatched := by
    intro frame rest value start isShort writes different
    rcases told.of_frame isOn start isShort with ⟨rosters, settled⟩
    rw [settled, Frame.settle]
    cases ascii : frame.bytes.all Frame.isAscii with
    | false => exact .inl (by simp [Frame.decode, ascii])
    | true => exact .inr (by rw [frame.decode_of_writes_other ascii rosters writes different])

end Verdict

namespace Decoder

/-- How a stream that comes in calls is told of, start marker by start marker, and what
the check digits have to do with it. -/
structure TellsDigits (decoder : Decoder) (calls : List Feed) (stream : List UInt8)
    (decided : List (List UInt8)) : Prop where
  told : List.Forall₂ AnswersDigits decided (decoder.feedAll calls).1
  ordered : decided.Sublist (starts stream)
  /-- Every whole frame is told of, unless another frame swallows it. -/
  complete : ∀ frame rest, Frame.bytes frame ++ rest ∈ starts stream → frame.IsShort →
    ∃ start ∈ decided, start = frame.bytes ++ rest ∨
      ∃ outcome, Verdict.Swallows { start, outcome } (frame.bytes ++ rest)

/-- However a stream is cut and whatever has been decoded before, the sentences that are
accepted have check digits that write the check value of the body: two digits, or a plus
sign and a digit. Any other two bytes in their place are rejected. -/
theorem Reachable.tellsDigits {decoder : Decoder} (reachable : decoder.Reachable)
    (calls : List Feed) :
    let stream := decoder.carry ++ calls.flatMap Feed.bytes
    decoder.TellsDigits calls stream ((verdicts decoder.rosters stream).map (·.start)) := by
  intro stream
  have isOn := verdicts_isOn decoder.rosters stream
  have told := (List.forall₂_and_left _ _).mpr ⟨isOn, reachable.isResting.told_feedAll calls⟩
  refine ⟨?_, sublist_starts _ _, ?_⟩
  · rw [List.forall₂_map_left_iff]
    exact told.imp fun _ _ both => both.2.answersDigits both.1
  · intro frame rest member isShort
    rcases told_or_swallowed decoder.rosters stream _ member with
      ⟨_, open_⟩ | ⟨verdict, inside, about⟩
    · cases open_.of_eq.symm.trans (isShort.of_start rest)
    · exact ⟨verdict.start, List.mem_map_of_mem inside, about.imp_right fun swallows =>
        ⟨verdict.outcome, swallows⟩⟩

/-- Digits of both letter cases, a digit behind a plus sign that comes in another call
than the sign, and bytes that are no digits. -/
theorem tellsDigits_signed :
    let decoder := (fresh.decode (Text.utf8 "$AA*+")).2
    let call : Feed := { buffer := Text.utf8 "0$B*4g$J*4A$J*4a", length := 16 }
    let stream := decoder.carry ++ [call].flatMap Feed.bytes
    decoder.Reachable ∧
      decoder.TellsDigits [call] stream ((verdicts decoder.rosters stream).map (·.start)) :=
  ⟨.decode .fresh _, (Reachable.decode .fresh _).tellsDigits _⟩

/-- A plus sign is no digit, and yet a frame that has one is accepted. -/
theorem feed_signed_digit_accepted :
    let frame : Frame := { body := [65, 65], first := '+'.toUInt8, second := '0'.toUInt8 }
    Number.hexPair? '+' '0' = none ∧
      ∃ outcomes after, fresh.feed frame.bytes frame.bytes.length = .ok (outcomes, after) ∧
        outcomes.filterMap Outcome.raw? = ["$AA*+0"] := by
  intro frame
  refine ⟨by decide, _, _, feed_accepted (Nat.le_refl _), ?_⟩
  decide +kernel

end Decoder

end ReceiverLog
