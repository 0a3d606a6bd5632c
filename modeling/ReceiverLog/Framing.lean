import ReceiverLog.Malformed

namespace ReceiverLog

/-! Frames in a stream of bytes: a start marker, a body, a star and two check
digits. `Framing.of` looks only at the first start marker of a stretch of
bytes and says what becomes of it. -/

def startMarker : UInt8 := '$'.toUInt8

def star : UInt8 := '*'.toUInt8

def isMarker (byte : UInt8) : Bool :=
  byte == startMarker || byte == star

/-- A body with the two bytes in the place of its check digits. -/
structure Frame where
  body : List UInt8
  first : UInt8
  second : UInt8
  deriving DecidableEq

def Frame.bytes (frame : Frame) : List UInt8 :=
  startMarker :: frame.body ++ [star, frame.first, frame.second]

/-- What stands at the first start marker. `rest` is where the next look
begins; for a frame it comes after the check digits. -/
inductive Framing where
  /-- There is no start marker, and so nothing to keep. -/
  | silent
  /-- More bytes have to come before the fragment can be judged. -/
  | undecided (fragment : List UInt8)
  | broken (reason : Malformed) (rest : List UInt8)
  | complete (frame : Frame) (rest : List UInt8)
  deriving DecidableEq

namespace Framing

/-- What becomes of a body, given what follows it: nothing, or a marker. -/
def judge (body : List UInt8) : List UInt8 → Framing
  | [] =>
      if longestBody < body.length then .broken .tooLong []
      else .undecided (startMarker :: body)
  | marker :: rest =>
      if marker = startMarker then .broken .truncated (marker :: rest)
      else if longestBody < body.length then .broken .tooLong rest
      else
        match rest with
        | first :: second :: rest => .complete { body, first, second } rest
        | _ => .undecided (startMarker :: body ++ marker :: rest)

def afterStart (bytes : List UInt8) : Framing :=
  judge (bytes.takeWhile (!isMarker ·)) (bytes.dropWhile (!isMarker ·))

def of (bytes : List UInt8) : Framing :=
  match bytes.dropWhile (· != startMarker) with
  | [] => .silent
  | _ :: rest => afterStart rest

theorem of_replicate_zero (count : Nat) : of (List.replicate count 0) = .silent := by
  have passed : (0 : UInt8) != startMarker := by decide
  rw [of, List.dropWhile_replicate, if_pos passed]

theorem length_le_of_judge_broken {body bytes rest : List UInt8} {reason : Malformed}
    (broken : judge body bytes = .broken reason rest) : rest.length ≤ bytes.length := by
  unfold judge at broken
  repeat' split at broken
  all_goals cases broken
  all_goals simp

theorem length_lt_of_judge_complete {body bytes rest : List UInt8} {frame : Frame}
    (complete : judge body bytes = .complete frame rest) : rest.length + 2 < bytes.length := by
  unfold judge at complete
  repeat' split at complete
  all_goals cases complete
  all_goals simp

theorem length_lt_of_dropWhile {bytes rest : List UInt8} {test : UInt8 → Bool} {head : UInt8}
    (equal : bytes.dropWhile test = head :: rest) : rest.length < bytes.length := by
  have bound := (List.dropWhile_suffix test (l := bytes)).length_le
  rw [equal, List.length_cons] at bound
  omega

theorem length_lt_of_broken {bytes rest : List UInt8} {reason : Malformed}
    (broken : of bytes = .broken reason rest) : rest.length < bytes.length := by
  unfold of at broken
  split at broken
  · cases broken
  · next remaining equal =>
      have inner := length_le_of_judge_broken broken
      have dropped := (List.dropWhile_suffix (!isMarker ·) (l := remaining)).length_le
      have outer := length_lt_of_dropWhile equal
      omega

theorem length_lt_of_complete {bytes rest : List UInt8} {frame : Frame}
    (complete : of bytes = .complete frame rest) : rest.length + 2 < bytes.length := by
  unfold of at complete
  split at complete
  · cases complete
  · next remaining equal =>
      have inner := length_lt_of_judge_complete complete
      have dropped := (List.dropWhile_suffix (!isMarker ·) (l := remaining)).length_le
      have outer := length_lt_of_dropWhile equal
      omega

end Framing

end ReceiverLog
