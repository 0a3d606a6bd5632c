import ReceiverLog.Proofs.Positions.Lookup

namespace ReceiverLog

/-! Sentences read by position: the fields of a sentence by their numbers, the parts of a
time, of a date and of an address by the places of their characters. All positions are in
range, and what is read is the same. -/

/-! ## Times and dates -/

def TimeOfDay.lookUp (text : List Char) : Option (Option TimeOfDay) :=
  if (Text.encoded text).length < 6 ∨ ¬Text.IsAscii text then some none
  else do
    let hours ← Text.slice? text 0 2
    let minutes ← Text.slice? text 2 4
    let seconds ← Text.sliceFrom? text 4
    return do
      let hour ← part? hours
      let minute ← part? minutes
      let seconds ← Number.double? seconds
      of? hour minute seconds.toUInt32.toNat (milliseconds seconds)

theorem TimeOfDay.lookUp_eq {text : List Char} (ascii : Text.IsAscii text) :
    lookUp text = some (read? text) := by
  rw [lookUp, read?, ascii.length_encoded]
  by_cases few : text.length < 6
  · rw [if_pos (.inl few), if_pos few]
  · have allowed : ¬(text.length < 6 ∨ ¬Text.IsAscii text) :=
      fun refused => refused.elim few (absurd ascii)
    have hours := ascii.slice?_eq (Nat.zero_le 2) (by omega)
    have minutes := ascii.slice?_eq (show 2 ≤ 4 by decide) (by omega)
    have seconds : Text.sliceFrom? text 4 = _ := ascii.sliceFrom?_eq (by omega)
    rw [if_neg allowed, if_neg few, hours, minutes, seconds]
    rfl

def Date.lookUp (text : List Char) : Option (Option Date) :=
  if (Text.encoded text).length = 6 ∧ text.all Number.Decimal.isDigit then do
    let day ← Text.slice? text 0 2
    let month ← Text.slice? text 2 4
    let year ← Text.slice? text 4 6
    return of? (fullYear (Number.Decimal.value year)) (Number.Decimal.value month)
      (Number.Decimal.value day)
  else some none

theorem Date.lookUp_eq {text : List Char} (ascii : Text.IsAscii text) :
    lookUp text = some (read? text) := by
  rw [lookUp, read?, ascii.length_encoded]
  by_cases six : text.length = 6 ∧ text.all Number.Decimal.isDigit
  · have day := ascii.slice?_eq (Nat.zero_le 2) (by omega)
    have month := ascii.slice?_eq (show 2 ≤ 4 by decide) (by omega)
    have year := ascii.slice?_eq (show 4 ≤ 6 by decide) (by omega)
    have short : (text.drop 4).length ≤ 2 := by simp [six.1]
    rw [List.take_of_length_le short] at year
    rw [if_pos six, if_pos six, day, month, year]
    rfl
  · rw [if_neg six, if_neg six]

/-! ## Fields -/

namespace Lookup

section Definitions

variable {α : Type} (kind : SentenceKind) (texts : List (List Char))

def require : Lookup Unit :=
  if texts.length < kind.fieldCount then throw (.missingFields kind texts.length)
  else return ()

def trimmed (index : Nat) : Lookup (List Char) := do
  let text ← checked texts[index]?
  return Text.trim text

def field (read : List Char → Option (Option α)) (index : Nat) : Lookup (Option α) := do
  let text ← trimmed texts index
  if text.isEmpty then return none
  else
    match ← checked (read text) with
    | some value => return some value
    | none => throw (.invalidField kind index text)

def optional (read : List Char → Option α) (index : Nat) : Lookup (Option α) :=
  field kind texts (fun text => some (read text)) index

def required (read : List Char → Option α) (index : Nat) : Lookup α := do
  match ← optional kind texts read index with
  | some value => return value
  | none =>
      let text ← checked texts[index]?
      throw (.invalidField kind index text)

def coordinate (axis : Axis) (index : Nat) : Lookup (Option Float) := do
  let number ← trimmed texts index
  let hemisphere ← trimmed texts (index + 1)
  if number.isEmpty && hemisphere.isEmpty then return none
  else
    match Number.double? number with
    | none => throw (.invalidField kind index number)
    | some value =>
        let degrees := degreesOf value
        if hemisphere = axis.negative then return some (-degrees)
        else if hemisphere = axis.positive then return some degrees
        else throw (.invalidField kind (index + 1) hemisphere)

end Definitions

variable {α : Type} {kind : SentenceKind} {texts : List (List Char)}

theorem require_bind {next : Lookup α} {read : Fields kind → Except Malformed α}
    (nextFound : ∀ fields : Fields kind, fields.texts = texts → next = found (read fields)) :
    (require kind texts >>= fun _ => next) = found (Fields.of kind texts >>= read) := by
  rw [require, Fields.of]
  by_cases enough : kind.fieldCount ≤ texts.length
  · rw [if_neg (Nat.not_lt.mpr enough), dif_pos enough]
    exact nextFound { texts, enough } rfl
  · rw [if_pos (Nat.lt_of_not_le enough), dif_neg enough]
    rfl

theorem bind_read {β : Type} {data : Lookup α} {read : Fields kind → Except Malformed α}
    (same : data = found (Fields.of kind texts >>= read)) (finish : α → β) :
    (data >>= fun data => pure (finish data)) =
      found (Fields.of kind texts >>= fun fields => read fields >>= fun data =>
        pure (finish data)) := by
  rw [← bind_assoc]
  exact bind_found same fun _ => rfl

theorem trimmed_eq {index : Nat} {text : List Char} (inRange : texts[index]? = some text) :
    trimmed texts index = found (.ok (Text.trim text)) := by
  rw [trimmed, bind_checked inRange]
  rfl

theorem field_eq {index : Nat} {text : List Char} (inRange : texts[index]? = some text)
    {lookUp : List Char → Option (Option α)} {read : List Char → Option α}
    (same : lookUp (Text.trim text) = some (read (Text.trim text))) :
    field kind texts lookUp index = found (readField kind index read text) := by
  rw [field, trimmed_eq inRange, bind_ok, readField]
  apply ite_found rfl
  rw [bind_checked same]
  cases read (Text.trim text) <;> rfl

end Lookup

namespace Fields

open Lookup

variable {α : Type} {kind : SentenceKind} (fields : Fields kind)

theorem getElem?_texts (index : Fin kind.fieldCount) :
    fields.texts[index.val]? = some (fields.text index) := by
  rw [text, List.get_eq_getElem]
  exact List.getElem?_eq_getElem _

theorem trimmed_lookUp (index : Fin kind.fieldCount) :
    Lookup.trimmed fields.texts index = found (.ok (fields.trimmed index)) :=
  trimmed_eq (fields.getElem?_texts index)

theorem optional_lookUp (read : List Char → Option α) (index : Fin kind.fieldCount) :
    Lookup.optional kind fields.texts read index = found (fields.optional read index) :=
  field_eq (fields.getElem?_texts index) rfl

theorem required_lookUp (read : List Char → Option α) (index : Fin kind.fieldCount) :
    Lookup.required kind fields.texts read index = found (fields.required read index) := by
  apply bind_found (fields.optional_lookUp read index)
  intro value
  cases value with
  | none => rw [bind_checked (fields.getElem?_texts index)]; rfl
  | some value => rfl

theorem coordinate_lookUp (axis : Axis) (number hemisphere : Fin kind.fieldCount)
    (next : hemisphere.val = number.val + 1) :
    Lookup.coordinate kind fields.texts axis number =
      found (fields.coordinate axis number hemisphere) := by
  rw [Lookup.coordinate, ← next, trimmed_lookUp, bind_ok, trimmed_lookUp, bind_ok, coordinate]
  apply ite_found rfl
  cases Number.double? (fields.trimmed number) with
  | none => rfl
  | some value =>
      apply ite_found rfl
      apply ite_found rfl
      rw [next]
      rfl

def AreAscii : Prop :=
  ∀ text ∈ fields.texts, Text.IsAscii text

variable {fields} in
theorem AreAscii.field_lookUp (ascii : fields.AreAscii) {lookUp : List Char → Option (Option α)}
    {read : List Char → Option α}
    (same : ∀ {text : List Char}, Text.IsAscii text → lookUp text = some (read text))
    (index : Fin kind.fieldCount) :
    Lookup.field kind fields.texts lookUp index = found (fields.optional read index) := by
  have inRange := fields.getElem?_texts index
  exact field_eq inRange (same (ascii _ (List.mem_of_getElem? inRange)).trim)

end Fields

/-! ## Sentences -/

open Lookup

namespace FixData

def lookUp (talker : String) (texts : List (List Char)) : Lookup FixData := do
  require .fixData texts
  let time ← field .fixData texts TimeOfDay.lookUp 1
  let latitude ← coordinate .fixData texts .northSouth 2
  let longitude ← coordinate .fixData texts .eastWest 4
  let quality ← optional .fixData texts Number.byte? 6
  let satellitesUsed ← optional .fixData texts Number.byte? 7
  let horizontalDilution ← optional .fixData texts Number.double? 8
  let altitude ← optional .fixData texts Number.double? 9
  let geoidSeparation ← optional .fixData texts Number.double? 11
  let correctionAge ← optional .fixData texts Number.double? 13
  let correctionStation ← optional .fixData texts Number.word? 14
  return {
    talker, time, latitude, longitude, quality, satellitesUsed, horizontalDilution,
    altitude, geoidSeparation, correctionAge, correctionStation }

theorem lookUp_eq {texts : List (List Char)} (ascii : ∀ text ∈ texts, Text.IsAscii text)
    (talker : String) :
    lookUp talker texts = found (Fields.of .fixData texts >>= read talker) := by
  apply require_bind
  rintro fields rfl
  have areAscii : fields.AreAscii := ascii
  -- One lookup after another in the order of the reader. An index below the number of
  -- fields that the kind of sentence requires is in range.
  apply bind_found (areAscii.field_lookUp TimeOfDay.lookUp_eq 1)
  intro time
  apply bind_found (fields.coordinate_lookUp .northSouth 2 3 rfl)
  intro latitude
  apply bind_found (fields.coordinate_lookUp .eastWest 4 5 rfl)
  intro longitude
  apply bind_found (fields.optional_lookUp Number.byte? 6)
  intro quality
  apply bind_found (fields.optional_lookUp Number.byte? 7)
  intro satellitesUsed
  apply bind_found (fields.optional_lookUp Number.double? 8)
  intro horizontalDilution
  apply bind_found (fields.optional_lookUp Number.double? 9)
  intro altitude
  apply bind_found (fields.optional_lookUp Number.double? 11)
  intro geoidSeparation
  apply bind_found (fields.optional_lookUp Number.double? 13)
  intro correctionAge
  apply bind_found (fields.optional_lookUp Number.word? 14)
  intro correctionStation
  rfl

end FixData

namespace MinimumData

def lookUpStatus (texts : List (List Char)) : Lookup Bool := do
  let status ← trimmed texts 2
  if status = ['A'] then return true
  else if status = ['V'] ∨ status = [] then return false
  else throw (.invalidField .minimumData 2 status)

def lookUpVariation (texts : List (List Char)) : Lookup (Option Float) := do
  match ← optional .minimumData texts Number.double? 10 with
  | none => return none
  | some variation =>
      let direction ← trimmed texts 11
      return some (if direction = ['W'] then -variation else variation)

def lookUp (talker : String) (texts : List (List Char)) : Lookup MinimumData := do
  require .minimumData texts
  let valid ← lookUpStatus texts
  let magneticVariation ← lookUpVariation texts
  let time ← field .minimumData texts TimeOfDay.lookUp 1
  let latitude ← coordinate .minimumData texts .northSouth 3
  let longitude ← coordinate .minimumData texts .eastWest 5
  let speedKnots ← optional .minimumData texts Number.double? 7
  let track ← optional .minimumData texts Number.double? 8
  let date ← field .minimumData texts Date.lookUp 9
  return {
    talker, time, valid, latitude, longitude, speedKnots, track, date, magneticVariation }

theorem lookUpStatus_eq (fields : Fields .minimumData) :
    lookUpStatus fields.texts = found (readStatus fields) := by
  have status : trimmed fields.texts 2 = _ := fields.trimmed_lookUp 2
  rw [lookUpStatus, status, bind_ok]
  apply ite_found rfl
  apply ite_found rfl
  rfl

theorem lookUpVariation_eq (fields : Fields .minimumData) :
    lookUpVariation fields.texts = found (readVariation fields) := by
  apply bind_found (fields.optional_lookUp Number.double? 10)
  intro variation
  cases variation with
  | none =>
      rw [Option.map_none, ite_self]
      rfl
  | some variation =>
      have direction : trimmed fields.texts 11 = _ := fields.trimmed_lookUp 11
      dsimp only
      rw [direction, bind_ok, Option.map_some, ← apply_ite some]
      rfl

theorem lookUp_eq {texts : List (List Char)} (ascii : ∀ text ∈ texts, Text.IsAscii text)
    (talker : String) :
    lookUp talker texts = found (Fields.of .minimumData texts >>= read talker) := by
  apply require_bind
  rintro fields rfl
  have areAscii : fields.AreAscii := ascii
  apply bind_found (lookUpStatus_eq fields)
  intro valid
  apply bind_found (lookUpVariation_eq fields)
  intro magneticVariation
  apply bind_found (areAscii.field_lookUp TimeOfDay.lookUp_eq 1)
  intro time
  apply bind_found (fields.coordinate_lookUp .northSouth 3 4 rfl)
  intro latitude
  apply bind_found (fields.coordinate_lookUp .eastWest 5 6 rfl)
  intro longitude
  apply bind_found (fields.optional_lookUp Number.double? 7)
  intro speedKnots
  apply bind_found (fields.optional_lookUp Number.double? 8)
  intro track
  apply bind_found (areAscii.field_lookUp Date.lookUp_eq 9)
  intro date
  rfl

end MinimumData

namespace ActiveSatellites

def lookUpSelection (texts : List (List Char)) : Lookup (Option SelectionMode) := do
  let mode ← trimmed texts 1
  if mode = [] then return none
  else if mode = ['A'] then return some .automatic
  else if mode = ['M'] then return some .manual
  else throw (.invalidField .activeSatellites 1 mode)

def lookUp (talker : String) (texts : List (List Char)) : Lookup ActiveSatellites := do
  require .activeSatellites texts
  let selection ← lookUpSelection texts
  let prns ← (List.range' 3 12).mapM (optional .activeSatellites texts Number.word?)
  let fixMode ← optional .activeSatellites texts Number.byte? 2
  let positionDilution ← optional .activeSatellites texts Number.double? 15
  let horizontalDilution ← optional .activeSatellites texts Number.double? 16
  let verticalDilution ← optional .activeSatellites texts Number.double? 17
  return {
    talker, selection, fixMode, prns := prns.filterMap id,
    positionDilution, horizontalDilution, verticalDilution }

theorem lookUpSelection_eq (fields : Fields .activeSatellites) :
    lookUpSelection fields.texts = found (readSelection fields) := by
  have mode : trimmed fields.texts 1 = _ := fields.trimmed_lookUp 1
  rw [lookUpSelection, mode, bind_ok]
  apply ite_found rfl
  apply ite_found rfl
  apply ite_found rfl
  rfl

theorem lookUp_eq (talker : String) (texts : List (List Char)) :
    lookUp talker texts = found (Fields.of .activeSatellites texts >>= read talker) := by
  apply require_bind
  rintro fields rfl
  apply bind_found (lookUpSelection_eq fields)
  intro selection
  apply bind_found (mapM_found (fields.optional_lookUp Number.word?) prnFields)
  intro prns
  apply bind_found (fields.optional_lookUp Number.byte? 2)
  intro fixMode
  apply bind_found (fields.optional_lookUp Number.double? 15)
  intro positionDilution
  apply bind_found (fields.optional_lookUp Number.double? 16)
  intro horizontalDilution
  apply bind_found (fields.optional_lookUp Number.double? 17)
  intro verticalDilution
  rfl

end ActiveSatellites

namespace SatellitesInView

def lookUpGroup (texts : List (List Char)) (index : Nat) : Lookup (Option Satellite) := do
  match ← optional .satellitesInView texts Number.word? index with
  | none => return none
  | some prn =>
      let elevation ← optional .satellitesInView texts Number.single? (index + 1)
      let azimuth ← optional .satellitesInView texts Number.single? (index + 2)
      let signal ← optional .satellitesInView texts Number.single? (index + 3)
      return some { prn, signal, elevation, azimuth }

def lookUpGroups (texts : List (List Char)) (index : Nat) : Lookup (List Satellite) :=
  if index + 3 < texts.length then do
    let satellite ← lookUpGroup texts index
    let others ← lookUpGroups texts (index + 4)
    return satellite.toList ++ others
  else return []
termination_by texts.length - index

def lookUp (talker : String) (roster : Roster) (texts : List (List Char)) :
    Lookup SatellitesInView := do
  require .satellitesInView texts
  let messages ← required .satellitesInView texts Number.byte? 1
  let number ← required .satellitesInView texts Number.byte? 2
  let inView ← optional .satellitesInView texts Number.word? 3
  let listed ← lookUpGroups texts 4
  let (satellites, truncated) :=
    Roster.enterAll (if startsSequence number then [] else roster) listed
  return { talker, messages, number, inView, satellites, truncated }

theorem lookUpGroup_eq (texts : List (List Char)) {index : Nat}
    (inRange : index + 3 < texts.length) :
    lookUpGroup texts index =
      found (readGroup index texts[index] texts[index + 1] texts[index + 2]
        texts[index + 3]) := by
  apply bind_found (field_eq (List.getElem?_eq_getElem _) rfl)
  intro prn
  cases prn with
  | none => rfl
  | some prn =>
      apply bind_found (field_eq (List.getElem?_eq_getElem _) rfl)
      intro elevation
      apply bind_found (field_eq (List.getElem?_eq_getElem _) rfl)
      intro azimuth
      apply bind_found (field_eq (List.getElem?_eq_getElem _) rfl)
      intro signal
      rfl

theorem lookUpGroups_eq (texts : List (List Char)) (index : Nat) :
    lookUpGroups texts index = found (readGroups index (texts.drop index)) := by
  fun_induction lookUpGroups texts index with
  | case1 index inRange induction =>
      -- The condition of the loop says that four fields are left.
      have group : texts.drop index = texts[index] :: texts[index + 1] :: texts[index + 2] ::
          texts[index + 3] :: texts.drop (index + 4) := by
        rw [List.drop_eq_getElem_cons (by omega), List.drop_eq_getElem_cons (by omega),
          List.drop_eq_getElem_cons (by omega), List.drop_eq_getElem_cons inRange]
      rw [group]
      apply bind_found (lookUpGroup_eq texts inRange)
      intro satellite
      apply bind_found induction
      intro others
      rfl
  | case2 index ends =>
      have few : (texts.drop index).length < 4 := by
        rw [List.length_drop]
        omega
      rw [readGroups_of_few few]
      rfl

theorem lookUp_eq (talker : String) (roster : Roster) (texts : List (List Char)) :
    lookUp talker roster texts =
      found (Fields.of .satellitesInView texts >>= read talker roster) := by
  apply require_bind
  rintro fields rfl
  apply bind_found (fields.required_lookUp Number.byte? 1)
  intro messages
  apply bind_found (fields.required_lookUp Number.byte? 2)
  intro number
  apply bind_found (fields.optional_lookUp Number.word? 3)
  intro inView
  apply bind_found (lookUpGroups_eq fields.texts 4)
  intro listed
  rfl

end SatellitesInView

def Sentence.lookUp (rosters : Rosters) (body : List Char) : Lookup (Sentence × Rosters) := do
  let texts := Text.split ',' body
  let address ← checked texts[0]?
  if (Text.encoded address).length = 5 ∧ address.all Char.isAlphanum then
    let (name, code) ← checked (Text.splitAt? address 2)
    let talker := String.ofList name
    match SentenceKind.ofCode? (String.ofList code) with
    | none => return (.unrecognized (String.ofList address), rosters)
    | some .fixData =>
        let data ← FixData.lookUp talker texts
        return (.fixData data, rosters)
    | some .activeSatellites =>
        let data ← ActiveSatellites.lookUp talker texts
        return (.activeSatellites data, rosters)
    | some .minimumData =>
        let data ← MinimumData.lookUp talker texts
        return (.minimumData data, rosters)
    | some .satellitesInView =>
        let data ← SatellitesInView.lookUp talker (rosters.of talker) texts
        return (.satellitesInView data, rosters.set talker data.satellites)
  else return (.unrecognized (String.ofList address), rosters)

theorem Sentence.lookUp_eq (rosters : Rosters) {body : List Char} (ascii : Text.IsAscii body) :
    lookUp rosters body = found (read rosters body) := by
  have textsAscii : ∀ text ∈ Text.split ',' body, Text.IsAscii text :=
    fun _ member => ascii.of_mem_split member
  rw [lookUp, read]
  cases texts : Text.split ',' body with
  | nil => exact absurd texts (Text.split_ne_nil ',' body)
  | cons address rest =>
      rw [texts] at textsAscii
      have addressAscii := textsAscii address List.mem_cons_self
      dsimp only [List.headD_cons]
      rw [bind_checked List.getElem?_cons_zero, addressAscii.length_encoded, Address.read?]
      by_cases readable : address.length = 5 ∧ address.all Char.isAlphanum
      · have split := addressAscii.splitAt?_eq (show 2 ≤ address.length by omega)
        rw [if_pos readable, if_pos readable, bind_checked split]
        dsimp only
        cases SentenceKind.ofCode? (String.ofList (address.drop 2)) with
        | none => rfl
        | some kind =>
            cases kind with
            | fixData => exact bind_read (FixData.lookUp_eq textsAscii _) _
            | activeSatellites => exact bind_read (ActiveSatellites.lookUp_eq _ _) _
            | minimumData => exact bind_read (MinimumData.lookUp_eq textsAscii _) _
            | satellitesInView => exact bind_read (SatellitesInView.lookUp_eq _ _ _) _
      · rw [if_neg readable, if_neg readable]
        rfl

end ReceiverLog
