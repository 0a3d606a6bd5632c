import ReceiverLog.Checksum
import ReceiverLog.Framing
import ReceiverLog.Number.Numeral
import ReceiverLog.Sentence.Reading

namespace ReceiverLog

/-! Decoding a stream of bytes that arrives in chunks. A fragment at the end
of a chunk is carried over and completed by the next one. -/

inductive Outcome where
  | sentence (sentence : Sentence) (raw : String)
  | malformed (reason : Malformed)

namespace Frame

def isAscii (byte : UInt8) : Bool :=
  byte < 128

def characters (bytes : List UInt8) : List Char :=
  bytes.map fun byte => Char.ofNat byte.toNat

def text (frame : Frame) : String :=
  String.ofList (characters frame.bytes)

def decode (rosters : Rosters) (frame : Frame) : Except Malformed (Sentence × Rosters) :=
  if !frame.bytes.all isAscii then .error .notAscii
  else
    let digits := characters [frame.first, frame.second]
    match Number.checkByte? digits with
    | none => .error (.invalidChecksum digits)
    | some expected =>
        let computed := checksum frame.body
        if expected ≠ computed then .error (.checksumMismatch expected computed)
        else Sentence.read rosters (characters frame.body)

/-- Where the next look begins. Bytes that are no check digits may belong to
the next frame, so they are looked at again. -/
def resume (frame : Frame) (reason : Malformed) (rest : List UInt8) : List UInt8 :=
  match reason with
  | .invalidChecksum _ => frame.first :: frame.second :: rest
  | _ => rest

/-- What a frame comes to: its outcome, the rosters after it, and the bytes
that are still to be looked at. -/
def settle (rosters : Rosters) (frame : Frame) (rest : List UInt8) :
    Outcome × Rosters × List UInt8 :=
  match frame.decode rosters with
  | .ok (sentence, updated) => (.sentence sentence frame.text, updated, rest)
  | .error reason => (.malformed reason, rosters, frame.resume reason rest)

theorem length_resume_le (frame : Frame) (reason : Malformed) (rest : List UInt8) :
    (frame.resume reason rest).length ≤ rest.length + 2 := by
  unfold resume
  split <;> simp

theorem length_settle_le (rosters : Rosters) (frame : Frame) (rest : List UInt8) :
    (frame.settle rosters rest).2.2.length ≤ rest.length + 2 := by
  unfold settle
  split
  · simp
  · exact length_resume_le _ _ _

end Frame

/-- The fragment carried over, and what every talker has listed so far. -/
structure Decoder where
  carry : List UInt8
  rosters : Rosters

inductive FeedError where
  | lengthOutOfBounds (length capacity : Nat)
  deriving DecidableEq

def FeedError.message : FeedError → String
  | .lengthOutOfBounds length capacity =>
      s!"feed length {length} exceeds buffer of {capacity} bytes"

namespace Decoder

def fresh : Decoder := { carry := [], rosters := [] }

def reset (decoder : Decoder) : Decoder :=
  { decoder with carry := [], rosters := [] }

def pending (decoder : Decoder) : Nat :=
  decoder.carry.length

def scan (rosters : Rosters) (bytes : List UInt8) : List Outcome × Decoder :=
  match _ : Framing.of bytes with
  | .silent => ([], { carry := [], rosters })
  | .undecided fragment => ([], { carry := fragment, rosters })
  | .broken reason rest =>
      let (outcomes, decoder) := scan rosters rest
      (.malformed reason :: outcomes, decoder)
  | .complete frame rest =>
      let settled := frame.settle rosters rest
      let (outcomes, decoder) := scan settled.2.1 settled.2.2
      (settled.1 :: outcomes, decoder)
termination_by bytes.length
decreasing_by
  · exact Framing.length_lt_of_broken ‹_›
  · have settled := Frame.length_settle_le rosters frame rest
    have shorter := Framing.length_lt_of_complete ‹Framing.of bytes = _›
    omega

def decode (decoder : Decoder) (bytes : List UInt8) : List Outcome × Decoder :=
  scan decoder.rosters (decoder.carry ++ bytes)

/-- When nothing has been carried over, zeros change nothing. -/
theorem decode_replicate_zero {decoder : Decoder} (nothing : decoder.carry = []) (count : Nat) :
    decoder.decode (List.replicate count 0) = ([], decoder) := by
  rw [decode, nothing, List.nil_append, scan, Framing.of_replicate_zero]
  cases decoder
  simp_all

def feed (decoder : Decoder) (buffer : List UInt8) (length : Nat) :
    Except FeedError (List Outcome × Decoder) :=
  if buffer.length < length then .error (.lengthOutOfBounds length buffer.length)
  else .ok (decoder.decode (buffer.take length))

end Decoder

end ReceiverLog
