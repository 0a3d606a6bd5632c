import Mathlib.Data.List.Forall2
import ReceiverLog.Proofs.Decoder.Chunks
import ReceiverLog.Proofs.Fix.Merging

namespace ReceiverLog

/-! A log read in chunks. Whatever the chunks, and whatever is left in the
buffer from the chunk before, it comes to the same as reading at once. -/

open Outcome (AllAgree)

namespace Outcome

def isMalformed : Outcome → Bool
  | .malformed _ => true
  | .sentence _ _ => false

def accepted? : Outcome → Option (Sentence × String)
  | .malformed _ => none
  | .sentence told raw => some (told, raw)

end Outcome

namespace Reader

/-! ## Hearing outcomes -/

theorem hear_append (now : Int) (fix : Fix) (first second : List Outcome) :
    hear now fix (first ++ second) =
      ((hear now (hear now fix first).1 second).1,
        (hear now fix first).2.1 ++ (hear now (hear now fix first).1 second).2.1,
        (hear now fix first).2.2 + (hear now (hear now fix first).1 second).2.2) := by
  induction first generalizing fix with
  | nil => simp [hear]
  | cons outcome rest induction =>
      cases outcome with
      | malformed reason =>
          simp only [List.cons_append, hear, induction]
          rw [Nat.add_right_comm]
      | sentence sentence raw => simp only [List.cons_append, hear, induction]

theorem hear_congr {left right : List Outcome} (agree : AllAgree left right) (now : Int)
    (fix : Fix) : hear now fix left = hear now fix right := by
  induction agree generalizing fix with
  | nil => rfl
  | @cons first second _ _ agrees _ induction =>
      rcases agrees with rfl | ⟨firstOverrun, secondOverrun⟩
      · cases first with
        | malformed reason => rw [hear, hear, induction]
        | sentence sentence raw =>
            dsimp only [hear]
            rw [induction]
      · cases first with
        | sentence sentence raw => cases firstOverrun
        | malformed reason =>
            cases second with
            | sentence sentence raw => cases secondOverrun
            | malformed other => rw [hear, hear, induction]

/-- What is told of an accepted sentence when the fix behind it is known. -/
def telling (now : Int) (fix : Fix) (sentence : Sentence) (text : String) : Delivery :=
  let itself := Event.raw { timestamp := now, text, length := text.utf8ByteSize }
  match sentence with
  | .fixData _ | .minimumData _ => [.location { fix, timestamp := now }, itself]
  | .satellitesInView data => [.satellites data.satellites, itself]
  | .activeSatellites _ | .unrecognized _ => [itself]

/-- What is told of accepted sentences behind others. The fix behind each of them is the one
that all sentences up to it tell. -/
def deliveries (now : Int) (before : List Sentence) : List (Sentence × String) → List Delivery
  | [] => []
  | (sentence, text) :: later =>
      let known := before ++ [sentence]
      telling now (.ofTold known) sentence text :: deliveries now known later

theorem delivery_reportBehind (now : Int) (before : List Sentence) (sentence : Sentence)
    (text : String) : delivery now (Fix.reportBehind before sentence) sentence text =
      telling now (.ofTold (before ++ [sentence])) sentence text := by
  cases sentence <;> rfl

theorem hear_ofTold (now : Int) (before : List Sentence) (outcomes : List Outcome) :
    hear now (.ofTold before) outcomes =
      (.ofTold (before ++ outcomes.filterMap Outcome.told?),
        deliveries now before (outcomes.filterMap (·.accepted?)),
        outcomes.countP (·.isMalformed)) := by
  induction outcomes generalizing before with
  | nil => simp [hear, deliveries]
  | cons outcome rest induction =>
      cases outcome with
      | malformed reason =>
          have counted : (Outcome.malformed reason).isMalformed = true := rfl
          rw [hear, induction, List.filterMap_cons_none rfl, List.filterMap_cons_none rfl,
            List.countP_cons_of_pos counted]
      | sentence sentence raw =>
          have told : (Outcome.sentence sentence raw).told? = some sentence := rfl
          have accepted : (Outcome.sentence sentence raw).accepted? = some (sentence, raw) := rfl
          have counted : ¬(Outcome.sentence sentence raw).isMalformed = true := Bool.false_ne_true
          rw [hear, Fix.apply_ofTold]
          dsimp only
          rw [delivery_reportBehind, induction, List.filterMap_cons_some told,
            List.filterMap_cons_some accepted, List.countP_cons_of_neg counted, deliveries,
            List.append_cons before sentence (rest.filterMap Outcome.told?)]

inductive IsDelivery : Delivery → Prop
  | plain (raw : RawSentence) : IsDelivery [.raw raw]
  | located (location : Location) (raw : RawSentence) : IsDelivery [.location location, .raw raw]
  | satellites (satellites : List Satellite) (raw : RawSentence) :
      IsDelivery [.satellites satellites, .raw raw]

theorem delivery_isDelivery (now : Int) (fix : Option Fix) (sentence : Sentence)
    (raw : String) : IsDelivery (delivery now fix sentence raw) := by
  rw [delivery]
  cases sentence with
  | satellitesInView data => exact .satellites _ _
  | _ =>
      cases fix with
      | none => exact .plain _
      | some fix => exact .located _ _

theorem hear_isDelivery (now : Int) (fix : Fix) (outcomes : List Outcome) :
    ∀ told ∈ (hear now fix outcomes).2.1, IsDelivery told := by
  induction outcomes generalizing fix with
  | nil =>
      intro told member
      cases member
  | cons outcome rest induction =>
      cases outcome with
      | malformed reason => exact induction fix
      | sentence sentence raw =>
          intro told member
          rcases List.mem_cons.mp member with rfl | member
          · exact delivery_isDelivery _ _ _ _
          · exact induction _ told member

/-! ## Reading at once -/

def atOnce (now : Int) (reader : Reader) (bytes : List UInt8) : Reading :=
  let decoded := reader.decoder.decode bytes
  let heard := hear now reader.fix decoded.1
  { reader := {
      decoder := decoded.2
      fix := heard.1
      offset := reader.offset + bytes.length }
    deliveries := heard.2.1
    malformed := heard.2.2
    fault := none }

theorem atOnce_append (now : Int) (reader : Reader) (first second : List UInt8) :
    reader.atOnce now (first ++ second) =
      let before := reader.atOnce now first
      let later := before.reader.atOnce now second
      { reader := later.reader
        deliveries := before.deliveries ++ later.deliveries
        malformed := before.malformed + later.malformed
        fault := none } := by
  have joined := Decoder.decode_append reader.decoder first second
  simp only [atOnce, hear_congr joined.1, hear_append, joined.2, List.length_append,
    Nat.add_assoc]

theorem atOnce_nil {reader : Reader} (resting : reader.decoder.IsResting) (now : Int) :
    reader.atOnce now [] = { reader, deliveries := [], malformed := 0, fault := none } := by
  rw [atOnce, resting]
  rfl

theorem atOnce_isResting (now : Int) (reader : Reader) (bytes : List UInt8) :
    (reader.atOnce now bytes).reader.decoder.IsResting :=
  Decoder.decode_isResting reader.decoder bytes

theorem atOnce_replicate_zero {reader : Reader} (nothing : reader.decoder.carry = [])
    (now : Int) (count : Nat) :
    reader.atOnce now (List.replicate count 0) =
      { reader := { reader with offset := reader.offset + count }
        deliveries := [], malformed := 0, fault := none } := by
  rw [atOnce, Decoder.decode_replicate_zero nothing, List.length_replicate]
  rfl

/-! ## Reading in chunks -/

theorem feed_fill (decoder : Decoder) (buffer chunk : List UInt8) :
    decoder.feed (fill buffer chunk) chunk.length = .ok (decoder.decode chunk) := by
  -- What the buffer held before lies behind the chunk, and is not decoded.
  have within : chunk.length ≤ (fill buffer chunk).length := by
    simp [fill]
  rw [Decoder.feed_accepted within, fill, List.take_left]

theorem take_passable {reader : Reader} {unread : FileContents}
    (some : 0 < reader.passable unread) :
    reader.decoder.carry = [] ∧ unread.toList.take (reader.passable unread) =
      List.replicate (reader.passable unread) 0 := by
  unfold passable at some ⊢
  split at some
  · next empty =>
      rw [if_pos empty]
      exact ⟨List.isEmpty_iff.mp empty,
        FileContents.take_of_le_gap (Nat.div_mul_le_self _ _)⟩
  · cases some

theorem consume_passed {reader : Reader} {unread : FileContents} (now : Int)
    (buffer : List UInt8) (some : 0 < reader.passable unread) :
    reader.consume now buffer unread =
      consume now { reader with offset := reader.offset + reader.passable unread } emptyBuffer
        (unread.drop (reader.passable unread)) := by
  rw [consume, dif_pos some]

private theorem consume_chunk {reader : Reader} {unread : FileContents} (now : Int)
    (buffer : List UInt8) (none : ¬0 < reader.passable unread)
    (present : unread.take chunkSize ≠ []) :
    reader.consume now buffer unread =
      let chunk := unread.take chunkSize
      let before := reader.atOnce now chunk
      let later := before.reader.consume now (fill buffer chunk) (unread.drop chunkSize)
      { later with
        deliveries := before.deliveries ++ later.deliveries
        malformed := before.malformed + later.malformed } := by
  rw [consume, dif_neg none, dif_neg present]
  simp only [feed_fill]
  rfl

private theorem take_chunkSize_eq_nil {unread : FileContents} :
    unread.take chunkSize = [] ↔ unread.toList = [] := by
  rw [FileContents.take_eq, List.take_eq_nil_iff]
  constructor
  · rintro (absurd | empty)
    · cases absurd
    · exact empty
  · exact .inr

/-- However a file is cut into chunks, reading it to its end is reading it at
once. No chunk is rejected. -/
theorem consume_eq_atOnce {reader : Reader} (resting : reader.decoder.IsResting) (now : Int)
    (buffer : List UInt8) (unread : FileContents) :
    reader.consume now buffer unread = reader.atOnce now unread.toList := by
  induction size : unread.size using Nat.strongRecOn generalizing reader buffer unread with
  | ind _ induction =>
      subst size
      by_cases some : 0 < reader.passable unread
      · rcases take_passable some with ⟨nothing, zeros⟩
        have bound := reader.passable_le_size unread
        have shorter : (unread.drop (reader.passable unread)).size < unread.size := by
          rw [FileContents.size_drop]
          omega
        have later := @induction _ shorter
          { reader with offset := reader.offset + reader.passable unread }
          resting emptyBuffer (unread.drop (reader.passable unread)) rfl
        rw [consume_passed now buffer some, later,
          ← List.take_append_drop (reader.passable unread) unread.toList, zeros, atOnce_append,
          atOnce_replicate_zero nothing, FileContents.toList_drop]
        simp only [List.nil_append, Nat.zero_add]
        rfl
      · by_cases exhausted : unread.take chunkSize = []
        · rw [consume, dif_neg some, dif_pos exhausted, take_chunkSize_eq_nil.mp exhausted,
            atOnce_nil resting]
        · have taken := List.length_pos_iff.mpr exhausted
          rw [FileContents.length_take] at taken
          have shorter : (unread.drop chunkSize).size < unread.size := by
            rw [FileContents.size_drop]
            unfold chunkSize at taken ⊢
            omega
          have later := induction _ shorter
            (atOnce_isResting now reader (unread.take chunkSize))
            (fill buffer (unread.take chunkSize)) (unread.drop chunkSize) rfl
          have whole := List.take_append_drop chunkSize unread.toList
          rw [← FileContents.take_eq, ← FileContents.toList_drop] at whole
          rw [consume_chunk now buffer some exhausted, ← whole, atOnce_append]
          dsimp only
          rw [later]
          rfl

theorem readOn_eq_atOnce {reader : Reader} (resting : reader.decoder.IsResting) (now : Int)
    (contents : FileContents) :
    reader.readOn now contents = reader.atOnce now (contents.toList.drop reader.offset) := by
  rw [readOn, consume_eq_atOnce resting, FileContents.toList_drop]

end Reader

/-! ## All that a run has read -/

namespace Reading

/-- What bytes come to for a reader that has read nothing before. -/
def of (now : Int) (bytes : List UInt8) : Reading :=
  let (outcomes, decoder) := Decoder.fresh.decode bytes
  { reader := {
      decoder
      fix := .ofTold (outcomes.filterMap Outcome.told?)
      offset := bytes.length }
    deliveries := Reader.deliveries now [] (outcomes.filterMap (·.accepted?))
    malformed := outcomes.countP (·.isMalformed)
    fault := none }

theorem of_eq_atOnce (now : Int) (bytes : List UInt8) :
    of now bytes = Reader.fresh.atOnce now bytes := by
  have heard := Reader.hear_ofTold now [] (Decoder.fresh.decode bytes).1
  rw [Reader.atOnce, show Reader.fresh.fix = .ofTold [] from rfl, Reader.fresh]
  simp only [heard, Nat.zero_add]
  rfl

theorem of_append (now : Int) (first second : List UInt8) :
    of now (first ++ second) =
      let later := (of now first).reader.atOnce now second
      { reader := later.reader
        deliveries := (of now first).deliveries ++ later.deliveries
        malformed := (of now first).malformed + later.malformed
        fault := none } := by
  simp only [of_eq_atOnce]
  exact Reader.atOnce_append now .fresh first second

theorem of_nil (now : Int) :
    of now [] = { reader := .fresh, deliveries := [], malformed := 0, fault := none } := by
  rw [of_eq_atOnce]
  exact Reader.atOnce_nil Decoder.fresh_isResting now

theorem of_isResting (now : Int) (bytes : List UInt8) :
    (of now bytes).reader.decoder.IsResting :=
  Decoder.decode_isResting .fresh bytes

theorem offset_of (now : Int) (bytes : List UInt8) :
    (of now bytes).reader.offset = bytes.length :=
  rfl

theorem of_isDelivery (now : Int) (bytes : List UInt8) :
    ∀ told ∈ (of now bytes).deliveries, Reader.IsDelivery told := by
  rw [of_eq_atOnce]
  exact Reader.hear_isDelivery now _ _

end Reading

end ReceiverLog
