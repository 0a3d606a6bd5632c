import ReceiverLog.Roster
import ReceiverLog.Sentence.Fields

namespace ReceiverLog

/-! Reading a sentence from the text of a frame's body. The fields are read
in a fixed order, and the first that cannot be read is the one reported. -/

def FixData.read (talker : String) (fields : Fields .fixData) :
    Except Malformed FixData := do
  let time ← fields.optional TimeOfDay.read? 1
  let latitude ← fields.coordinate .northSouth 2 3
  let longitude ← fields.coordinate .eastWest 4 5
  let quality ← fields.optional Number.byte? 6
  let satellitesUsed ← fields.optional Number.byte? 7
  let horizontalDilution ← fields.optional Number.double? 8
  let altitude ← fields.optional Number.double? 9
  let geoidSeparation ← fields.optional Number.double? 11
  let correctionAge ← fields.optional Number.double? 13
  let correctionStation ← fields.optional Number.word? 14
  return {
    talker, time, latitude, longitude, quality, satellitesUsed, horizontalDilution,
    altitude, geoidSeparation, correctionAge, correctionStation }

namespace MinimumData

def readStatus (fields : Fields .minimumData) : Except Malformed Bool :=
  let status := fields.trimmed 2
  if status = ['A'] then .ok true
  else if status = ['V'] ∨ status = [] then .ok false
  else .error (.invalidField .minimumData 2 status)

/-- Degrees of magnetic variation, negative towards the west. Any direction
but west leaves the number as it is. -/
def readVariation (fields : Fields .minimumData) : Except Malformed (Option Float) := do
  let variation ← fields.optional Number.double? 10
  return if fields.trimmed 11 = ['W'] then variation.map (- ·) else variation

/-- The status and the variation are read before all other fields. -/
def read (talker : String) (fields : Fields .minimumData) :
    Except Malformed MinimumData := do
  let valid ← readStatus fields
  let magneticVariation ← readVariation fields
  let time ← fields.optional TimeOfDay.read? 1
  let latitude ← fields.coordinate .northSouth 3 4
  let longitude ← fields.coordinate .eastWest 5 6
  let speedKnots ← fields.optional Number.double? 7
  let track ← fields.optional Number.double? 8
  let date ← fields.optional Date.read? 9
  return {
    talker, time, valid, latitude, longitude, speedKnots, track, date, magneticVariation }

end MinimumData

namespace ActiveSatellites

def readSelection (fields : Fields .activeSatellites) :
    Except Malformed (Option SelectionMode) :=
  let mode := fields.trimmed 1
  if mode = [] then .ok none
  else if mode = ['A'] then .ok (some .automatic)
  else if mode = ['M'] then .ok (some .manual)
  else .error (.invalidField .activeSatellites 1 mode)

def prnFields : List (Fin (SentenceKind.fieldCount .activeSatellites)) :=
  [3, 4, 5, 6, 7, 8, 9, 10, 11, 12, 13, 14]

def read (talker : String) (fields : Fields .activeSatellites) :
    Except Malformed ActiveSatellites := do
  let selection ← readSelection fields
  let prns ← prnFields.mapM (fields.optional Number.word?)
  let fixMode ← fields.optional Number.byte? 2
  let positionDilution ← fields.optional Number.double? 15
  let horizontalDilution ← fields.optional Number.double? 16
  let verticalDilution ← fields.optional Number.double? 17
  return {
    talker, selection, fixMode, prns := prns.filterMap id,
    positionDilution, horizontalDilution, verticalDilution }

end ActiveSatellites

namespace SatellitesInView

/-- The satellite of a group of four fields; none if its number is blank, and
then the other three are not looked at. -/
def readGroup (index : Nat) (prn elevation azimuth signal : List Char) :
    Except Malformed (Option Satellite) := do
  match ← readField .satellitesInView index Number.word? prn with
  | none => return none
  | some prn =>
      let elevation ← readField .satellitesInView (index + 1) Number.single? elevation
      let azimuth ← readField .satellitesInView (index + 2) Number.single? azimuth
      let signal ← readField .satellitesInView (index + 3) Number.single? signal
      return some { prn, signal, elevation, azimuth }

/-- The satellites of all whole groups of four fields. Fields left over after
the last whole group are not satellites. -/
def readGroups (index : Nat) : List (List Char) → Except Malformed (List Satellite)
  | prn :: elevation :: azimuth :: signal :: rest => do
      let satellite ← readGroup index prn elevation azimuth signal
      let others ← readGroups (index + 4) rest
      return satellite.toList ++ others
  | _ => return []

theorem readGroups_of_few {index : Nat} {texts : List (List Char)} (few : texts.length < 4) :
    readGroups index texts = .ok [] := by
  match texts, few with
  | [], _ => rfl
  | [_], _ => rfl
  | [_, _], _ => rfl
  | [_, _, _], _ => rfl

theorem length_lt_of_noGroup {texts : List (List Char)}
    (noGroup : ∀ prn elevation azimuth signal rest,
      texts = prn :: elevation :: azimuth :: signal :: rest → False) : texts.length < 4 := by
  rcases texts with _ | ⟨prn, _ | ⟨elevation, _ | ⟨azimuth, _ | ⟨signal, rest⟩⟩⟩⟩
  · decide
  · simp
  · simp
  · simp
  · exact (noGroup prn elevation azimuth signal rest rfl).elim

def startsSequence (number : UInt8) : Bool :=
  number ≤ 1

def read (talker : String) (roster : Roster) (fields : Fields .satellitesInView) :
    Except Malformed SatellitesInView := do
  let messages ← fields.required Number.byte? 1
  let number ← fields.required Number.byte? 2
  let inView ← fields.optional Number.word? 3
  let listed ← readGroups 4 (fields.texts.drop 4)
  let (satellites, truncated) :=
    Roster.enterAll (if startsSequence number then [] else roster) listed
  return { talker, messages, number, inView, satellites, truncated }

end SatellitesInView

structure Address where
  talker : String
  kind : SentenceKind

def Address.read? (text : List Char) : Option Address :=
  if text.length = 5 ∧ text.all Char.isAlphanum then
    (SentenceKind.ofCode? (String.ofList (text.drop 2))).map fun kind =>
      { talker := String.ofList (text.take 2), kind }
  else none

/-- Read a sentence, and the rosters after it. Only a message that lists
satellites changes a roster, and only when all of it can be read. -/
def Sentence.read (rosters : Rosters) (body : List Char) :
    Except Malformed (Sentence × Rosters) := do
  let texts := Text.split ',' body
  let address := texts.headD []
  match Address.read? address with
  | none => return (.unrecognized (String.ofList address), rosters)
  | some { talker, kind := .fixData } =>
      let data ← FixData.read talker (← Fields.of .fixData texts)
      return (.fixData data, rosters)
  | some { talker, kind := .activeSatellites } =>
      let data ← ActiveSatellites.read talker (← Fields.of .activeSatellites texts)
      return (.activeSatellites data, rosters)
  | some { talker, kind := .minimumData } =>
      let data ← MinimumData.read talker (← Fields.of .minimumData texts)
      return (.minimumData data, rosters)
  | some { talker, kind := .satellitesInView } =>
      let data ← SatellitesInView.read talker (rosters.of talker)
        (← Fields.of .satellitesInView texts)
      return (.satellitesInView data, rosters.set talker data.satellites)

namespace Sentence

variable {rosters : Rosters} {body : List Char}

def ofFields (rosters : Rosters) (talker : String) :
    {kind : SentenceKind} → Fields kind → Except Malformed (Sentence × Rosters)
  | .fixData, fields => do
      return (.fixData (← FixData.read talker fields), rosters)
  | .activeSatellites, fields => do
      return (.activeSatellites (← ActiveSatellites.read talker fields), rosters)
  | .minimumData, fields => do
      return (.minimumData (← MinimumData.read talker fields), rosters)
  | .satellitesInView, fields => do
      let data ← SatellitesInView.read talker (rosters.of talker) fields
      return (.satellitesInView data, rosters.set talker data.satellites)

theorem read_of_none (nobody : Address.read? ((Text.split ',' body).headD []) = none) :
    read rosters body =
      .ok (.unrecognized (String.ofList ((Text.split ',' body).headD [])), rosters) := by
  simp only [read, nobody]
  rfl

theorem read_of_some {address : Address}
    (addressed : Address.read? ((Text.split ',' body).headD []) = some address) :
    read rosters body =
      Fields.of address.kind (Text.split ',' body) >>= ofFields rosters address.talker := by
  rcases address with ⟨talker, kind⟩
  simp only [read, addressed]
  cases kind <;> rfl

end Sentence

end ReceiverLog
