import ReceiverLog.Proofs.Sentence.Records
import ReceiverLog.Proofs.Text.Splitting

namespace ReceiverLog

/-! Fields behind those that a sentence must have. Newer receivers send more fields than
older ones, and they send them at the end. A sentence says the same with them and without
them: the places that are read are those of the fields that must be there. Only satellites
in view are read for as long as groups of four fields go on, and there the further fields
must not complete a group. -/

/-! ## Fields that are read -/

namespace Fields

variable {kind : SentenceKind} {fields longer : Fields kind}

private theorem text_of_prefix (isPrefix : fields.texts <+: longer.texts) :
    longer.text = fields.text := by
  funext index
  exact (isPrefix.getElem (Nat.lt_of_lt_of_le index.isLt fields.enough)).symm

variable (same : longer.text = fields.text)

include same

theorem trimmed_congr : longer.trimmed = fields.trimmed := by
  funext index
  rw [trimmed, trimmed, same]

theorem optional_congr {α : Type} (read : List Char → Option α) :
    longer.optional read = fields.optional read := by
  funext index
  rw [optional, optional, same]

private theorem required_congr {α : Type} (read : List Char → Option α) :
    longer.required read = fields.required read := by
  funext index
  rw [required, required, optional_congr same, same]

private theorem coordinate_congr : longer.coordinate = fields.coordinate := by
  funext axis number hemisphere
  rw [coordinate, coordinate, trimmed_congr same]

end Fields

section

variable (talker : String)

theorem FixData.read_congr {fields longer : Fields .fixData}
    (same : longer.text = fields.text) : read talker longer = read talker fields := by
  simp only [read, Fields.optional_congr same, Fields.coordinate_congr same]

theorem MinimumData.read_congr {fields longer : Fields .minimumData}
    (same : longer.text = fields.text) : read talker longer = read talker fields := by
  simp only [read, readStatus, readVariation, Fields.trimmed_congr same,
    Fields.optional_congr same, Fields.coordinate_congr same]

theorem ActiveSatellites.read_congr {fields longer : Fields .activeSatellites}
    (same : longer.text = fields.text) : read talker longer = read talker fields := by
  simp only [read, readSelection, Fields.trimmed_congr same, Fields.optional_congr same]

end

namespace SatellitesInView

theorem readGroups_append {texts further : List (List Char)}
    (few : texts.length % 4 + further.length < 4) (index : Nat) :
    readGroups index (texts ++ further) = readGroups index texts := by
  fun_induction readGroups index texts with
  | case1 index prn elevation azimuth signal rest induction =>
      -- A whole group does not count among what is left over.
      have others : readGroups (index + 4) (rest ++ further) = readGroups (index + 4) rest := by
        apply induction
        simp only [List.length_cons] at few
        omega
      simp only [List.cons_append, readGroups, others]
  | case2 index texts noGroup =>
      rw [Nat.mod_eq_of_lt (length_lt_of_noGroup noGroup), ← List.length_append] at few
      exact readGroups_of_few few

theorem read_of_append (talker : String) (roster : Roster)
    {fields longer : Fields .satellitesInView} {further : List (List Char)}
    (whole : longer.texts = fields.texts ++ further)
    (few : fields.texts.length % 4 + further.length < 4) :
    read talker roster longer = read talker roster fields := by
  have same : longer.text = fields.text := Fields.text_of_prefix ⟨further, whole.symm⟩
  have groups : readGroups 4 (longer.texts.drop 4) = readGroups 4 (fields.texts.drop 4) := by
    have enough : 4 ≤ fields.texts.length := fields.enough
    rw [whole, List.drop_append_of_le_length enough]
    apply readGroups_append
    rw [List.length_drop]
    omega
  simp only [read, Fields.required_congr same, Fields.optional_congr same, groups]

end SatellitesInView

/-! ## Sentences -/

namespace Sentence

theorem ofFields_of_append (rosters : Rosters) (talker : String) {kind : SentenceKind}
    {fields longer : Fields kind} {further : List (List Char)}
    (whole : longer.texts = fields.texts ++ further)
    (few : kind = .satellitesInView → fields.texts.length % 4 + further.length < 4) :
    ofFields rosters talker longer = ofFields rosters talker fields := by
  have same : longer.text = fields.text := Fields.text_of_prefix ⟨further, whole.symm⟩
  cases kind with
  | fixData => rw [ofFields, ofFields, FixData.read_congr talker same]
  | satellitesInView =>
      rw [ofFields, ofFields, SatellitesInView.read_of_append talker _ whole (few rfl)]
  | activeSatellites => rw [ofFields, ofFields, ActiveSatellites.read_congr talker same]
  | minimumData => rw [ofFields, ofFields, MinimumData.read_congr talker same]

theorem read_of_append {body longer : List Char} {further : List (List Char)} {address : Address}
    (whole : Text.split ',' longer = Text.split ',' body ++ further)
    (addressed : Address.read? ((Text.split ',' body).headD []) = some address)
    (enough : address.kind.fieldCount ≤ (Text.split ',' body).length)
    (few : address.kind = .satellitesInView →
      (Text.split ',' body).length % 4 + further.length < 4)
    (rosters : Rosters) : read rosters longer = read rosters body := by
  have head : (Text.split ',' longer).headD [] = (Text.split ',' body).headD [] := by
    cases parts : Text.split ',' body with
    | nil => exact absurd parts (Text.split_ne_nil ',' body)
    | cons first others => rw [whole, parts, List.cons_append, List.headD_cons, List.headD_cons]
  have longEnough : address.kind.fieldCount ≤ (Text.split ',' longer).length := by
    rw [whole, List.length_append]
    exact Nat.le_add_right_of_le enough
  rcases Fields.exists_of (Nat.not_lt.mpr enough) with ⟨fields, found⟩
  rcases Fields.exists_of (Nat.not_lt.mpr longEnough) with ⟨others, othersFound⟩
  rw [read_of_some addressed, read_of_some (head ▸ addressed), found, othersFound]
  rw [← Fields.texts_eq_of_of found] at whole few
  rw [← Fields.texts_eq_of_of othersFound] at whole
  exact ofFields_of_append rosters address.talker whole few

end Sentence

/-! ## Frames -/

def comma : UInt8 := ','.toUInt8

private theorem ofNat_eq_comma_iff {byte : UInt8} : Char.ofNat byte.toNat = ',' ↔ byte = comma := by
  have every : ∀ code : Fin 256, Char.ofNat code = ',' → UInt8.ofNat code = comma := by
    decide +kernel
  constructor
  · intro equal
    rw [← every ⟨byte.toNat, byte.toNat_lt⟩ equal, UInt8.ofNat_toNat]
  · rintro rfl
    rfl

def Outcome.retold (raw : String) : Outcome → Outcome
  | .sentence told _ => .sentence told raw
  | .malformed reason => .malformed reason

namespace Frame

structure Extends (longer frame : Frame) (further : List (List UInt8)) : Prop where
  body : longer.body = frame.body ++ further.flatMap (comma :: ·)
  apart : ∀ field ∈ further, comma ∉ field

variable {frame longer : Frame} {further : List (List UInt8)}

theorem Extends.texts (extended : longer.Extends frame further) :
    longer.texts = frame.texts ++ further.map characters := by
  have apart : ∀ part ∈ further.map characters, ',' ∉ part := by
    intro part member inside
    rcases List.mem_map.mp member with ⟨field, isFurther, rfl⟩
    rcases List.mem_map.mp inside with ⟨byte, inField, equal⟩
    exact extended.apart field isFurther (ofNat_eq_comma_iff.mp equal ▸ inField)
  have spelled : characters longer.body =
      characters frame.body ++ (further.map characters).flatMap (',' :: ·) := by
    rw [extended.body, characters, List.map_append, List.map_flatMap, List.flatMap_map]
    rfl
  rw [Frame.texts, spelled, Text.split_append_flatMap apart]
  rfl

theorem Extends.isShort (extended : longer.Extends frame further) (isShort : longer.IsShort) :
    frame.IsShort where
  isBody := by
    intro byte member
    apply isShort.isBody
    rw [extended.body]
    exact List.mem_append_left _ member
  short := by
    have bound := isShort.short
    rw [extended.body, List.length_append] at bound
    omega

theorem IsChecked.isFramed (checked : frame.IsChecked) (isShort : frame.IsShort) :
    frame.IsFramed :=
  .of_checkByte? isShort.isBody isShort.short (Number.checkByte?_eq_some_iff.mpr checked.writes)

theorem settle_of_decode_eq {rosters : Rosters}
    (decoded : longer.decode rosters = frame.decode rosters) :
    (longer.settle rosters []).1 = (frame.settle rosters []).1.retold longer.text ∧
      (longer.settle rosters []).2.1 = (frame.settle rosters []).2.1 := by
  rw [settle, settle, decoded]
  cases frame.decode rosters with
  | error reason => exact ⟨rfl, rfl⟩
  | ok result => exact ⟨rfl, rfl⟩

theorem IsFramed.feed_alone (framed : frame.IsFramed) {decoder : Decoder}
    (nothing : decoder.carry = []) :
    decoder.feed frame.bytes frame.bytes.length =
      .ok ([(frame.settle decoder.rosters []).1],
        { carry := [], rosters := (frame.settle decoder.rosters []).2.1 }) := by
  rw [Decoder.feed_accepted (Nat.le_refl _), List.take_length, Decoder.decode, nothing,
    List.nil_append, framed.scan_alone]

/-- Of a sentence with enough fields for its kind, further fields behind them change
neither what is read of it, nor why it is refused, nor the satellites that its talker has
listed, whatever has been decoded before. Behind satellites in view this is so as long as
the further fields complete no group of four. A decoder that is fed the longer frame tells
the same of it, with its own text. -/
theorem decode_extended {address : Address} (extended : longer.Extends frame further)
    (checked : frame.IsChecked) (longerChecked : longer.IsChecked)
    (addressed : Address.read? (frame.texts.headD []) = some address)
    (enough : address.kind.fieldCount ≤ frame.texts.length)
    (few : address.kind = .satellitesInView →
      frame.texts.length % 4 + further.length < 4) :
    (∀ rosters, longer.decode rosters = frame.decode rosters) ∧
      (longer.IsShort → ∀ decoder : Decoder, decoder.carry = [] →
        ∃ outcome after,
          decoder.feed frame.bytes frame.bytes.length = .ok ([outcome], after) ∧
          decoder.feed longer.bytes longer.bytes.length =
            .ok ([outcome.retold longer.text], after)) := by
  have decoded (rosters : Rosters) : longer.decode rosters = frame.decode rosters := by
    rw [checked.decode, longerChecked.decode]
    apply Sentence.read_of_append extended.texts addressed enough
    rwa [List.length_map]
  refine ⟨decoded, ?_⟩
  intro isShort decoder nothing
  have framed := checked.isFramed (extended.isShort isShort)
  have longerFramed := longerChecked.isFramed isShort
  rcases settle_of_decode_eq (decoded decoder.rosters) with ⟨outcome, rosters⟩
  refine ⟨_, _, framed.feed_alone nothing, ?_⟩
  rw [longerFramed.feed_alone nothing, outcome, rosters]

/-- A signal number behind a whole group of satellites in view. -/
theorem decode_extended_signal :
    let frame : Frame := {
      body := Text.utf8 "GPGSV,1,1,01,05,40,083,46", first := '4'.toUInt8, second := '0'.toUInt8 }
    let longer : Frame := {
      body := Text.utf8 "GPGSV,1,1,01,05,40,083,46,1"
      first := '5'.toUInt8, second := 'D'.toUInt8 }
    let address : Address := { talker := "GP", kind := .satellitesInView }
    longer.Extends frame [Text.utf8 "1"] ∧ frame.IsChecked ∧ longer.IsChecked ∧
      Address.read? (frame.texts.headD []) = some address ∧
      address.kind.fieldCount ≤ frame.texts.length ∧
      frame.texts.length % 4 + 1 < 4 ∧ longer.IsShort ∧
      (∀ rosters, longer.decode rosters = frame.decode rosters) ∧
      ∃ outcome after,
        Decoder.fresh.feed frame.bytes frame.bytes.length = .ok ([outcome], after) ∧
        Decoder.fresh.feed longer.bytes longer.bytes.length =
          .ok ([outcome.retold longer.text], after) := by
  intro frame longer address
  have extended : longer.Extends frame [Text.utf8 "1"] := ⟨by decide +kernel, by decide +kernel⟩
  have checked : frame.IsChecked := ⟨by decide +kernel, .inl (by decide +kernel)⟩
  have longerChecked : longer.IsChecked := ⟨by decide +kernel, .inl (by decide +kernel)⟩
  have addressed : Address.read? (frame.texts.headD []) = some address := rfl
  have enough : address.kind.fieldCount ≤ frame.texts.length := by decide +kernel
  have few : frame.texts.length % 4 + 1 < 4 := by decide +kernel
  have isShort : longer.IsShort := ⟨by decide +kernel, by decide +kernel⟩
  rcases decode_extended extended checked longerChecked addressed enough fun _ => few with
    ⟨decoded, fed⟩
  exact ⟨extended, checked, longerChecked, addressed, enough, few, isShort, decoded,
    fed isShort .fresh rfl⟩

end Frame

end ReceiverLog
