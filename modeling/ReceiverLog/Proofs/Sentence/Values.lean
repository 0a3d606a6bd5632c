import ReceiverLog.Proofs.Decoder.CheckDigits
import ReceiverLog.Proofs.Number.WholeParts

namespace ReceiverLog

/-! The values of an accepted sentence. A value is absent exactly when its field is blank,
and otherwise it is what the whole of the trimmed field reads as. A field that is neither
blank nor readable makes the whole sentence malformed, so no record has a value that its
text does not bear out. -/

/-! ## One field -/

/-- The value that the text of a trimmed field gives: none if there is no text, and what
it reads as otherwise. -/
inductive Gives {α : Type} (read : List Char → Option α) (text : List Char) : Option α → Prop
  | absent (blank : text = []) : Gives read text none
  | present {value : α} (filled : text ≠ []) (reads : read text = some value) :
      Gives read text (some value)

/-- The angle that a number and a hemisphere give: none if both are blank. The hundreds of
the number are degrees, and what is left of it are minutes. -/
inductive GivesAngle (positive negative number hemisphere : List Char) : Option Float → Prop
  | absent (noNumber : number = []) (noHemisphere : hemisphere = []) :
      GivesAngle positive negative number hemisphere none
  | positive {value degrees : Float} (filled : number ≠ [])
      (reads : Number.double? number = some value)
      (whole : Number.IsWholePart (value / 100.0) degrees) (direction : hemisphere = positive) :
      GivesAngle positive negative number hemisphere
        (some (degrees + (value - degrees * 100.0) / 60.0))
  | negative {value degrees : Float} (filled : number ≠ [])
      (reads : Number.double? number = some value)
      (whole : Number.IsWholePart (value / 100.0) degrees) (direction : hemisphere = negative) :
      GivesAngle positive negative number hemisphere
        (some (-(degrees + (value - degrees * 100.0) / 60.0)))

section

variable {α : Type} {read : List Char → Option α} {text : List Char} {value : Option α}

theorem Gives.readable (gives : Gives read text value) (filled : text ≠ []) :
    (read text).isSome = true := by
  cases gives with
  | absent blank => exact absurd blank filled
  | present _ reads => rw [reads]; rfl

theorem Gives.filled {value : α} (gives : Gives read text (some value)) : text ≠ [] := by
  cases gives with
  | present filled _ => exact filled

theorem gives_of_readField {kind : SentenceKind} {index : Nat}
    (found : readField kind index read text = .ok value) :
    Gives read (Text.trim text) value := by
  unfold readField at found
  dsimp only at found
  split at found
  · next blank =>
      cases found
      exact .absent (List.isEmpty_iff.mp blank)
  · next filled =>
      rw [List.isEmpty_iff] at filled
      split at found
      · next reads =>
          cases found
          exact .present filled reads
      · cases found

theorem exists_readField (kind : SentenceKind) (index : Nat)
    (readable : Text.trim text ≠ [] → (read (Text.trim text)).isSome = true) :
    ∃ value, readField kind index read text = .ok value := by
  rw [readField]
  by_cases blank : Text.trim text = []
  · exact ⟨none, by rw [blank]; rfl⟩
  · rcases Option.isSome_iff_exists.mp (readable blank) with ⟨value, reads⟩
    have filled : (Text.trim text).isEmpty = false := List.isEmpty_eq_false_iff.mpr blank
    exact ⟨some value, by simp [filled, reads]⟩

end

private theorem Axis.positive_ne_negative (axis : Axis) : axis.positive ≠ axis.negative := by
  cases axis <;> decide

theorem Number.isSome_single? (text : List Char) :
    (single? text).isSome = (double? text).isSome := by
  rw [single?, double?, Option.isSome_map, Option.isSome_map]

namespace Fields

variable {kind : SentenceKind} {fields : Fields kind}

theorem gives_of_optional {α : Type} {read : List Char → Option α} {index : Fin kind.fieldCount}
    {value : Option α} (found : fields.optional read index = .ok value) :
    Gives read (fields.trimmed index) value :=
  gives_of_readField found

end Fields

/-! ## What a sentence may not hold -/

inductive FieldFormat where
  | time | date | byte | word | number | mode
  deriving DecidableEq

def SelectionMode.ofText? : List Char → Option SelectionMode
  | ['A'] => some .automatic
  | ['M'] => some .manual
  | _ => none

def FieldFormat.accepts (text : List Char) : FieldFormat → Bool
  | .time => (TimeOfDay.read? text).isSome
  | .date => (Date.read? text).isSome
  | .byte => (Number.byte? text).isSome
  | .word => (Number.word? text).isSome
  | .number => (Number.double? text).isSome
  | .mode => (SelectionMode.ofText? text).isSome

def SentenceKind.optionalFields : (kind : SentenceKind) → List (Fin kind.fieldCount × FieldFormat)
  | .fixData => [
      (1, .time), (6, .byte), (7, .byte), (8, .number), (9, .number), (11, .number),
      (13, .number), (14, .word)]
  | .satellitesInView => [(1, .byte), (2, .byte), (3, .word)]
  | .activeSatellites =>
      [(1, .mode), (2, .byte)] ++ ActiveSatellites.prnFields.map (·, .word) ++
        [(15, .number), (16, .number), (17, .number)]
  | .minimumData => [(1, .time), (7, .number), (8, .number), (9, .date), (10, .number)]

/-- A coordinate of a sentence: how its two directions are written, and the places of its
number and of its hemisphere. -/
structure CoordinatePlace (kind : SentenceKind) where
  positive : List Char
  negative : List Char
  number : Fin kind.fieldCount
  hemisphere : Fin kind.fieldCount
  deriving DecidableEq

def SentenceKind.coordinates : (kind : SentenceKind) → List (CoordinatePlace kind)
  | .fixData => [⟨['N'], ['S'], 2, 3⟩, ⟨['E'], ['W'], 4, 5⟩]
  | .minimumData => [⟨['N'], ['S'], 3, 4⟩, ⟨['E'], ['W'], 5, 6⟩]
  | _ => []

private theorem SentenceKind.directions_ne_nil (kind : SentenceKind) :
    ∀ place ∈ kind.coordinates, place.positive ≠ [] ∧ place.negative ≠ [] := by
  cases kind <;> decide

/-- A coordinate with only one of its fields, or one that cannot be read. -/
inductive IsUnreadableAngle (positive negative number hemisphere : List Char) : Prop
  | noNumber (blank : number = []) (filled : hemisphere ≠ []) :
      IsUnreadableAngle positive negative number hemisphere
  | noHemisphere (filled : number ≠ []) (blank : hemisphere = []) :
      IsUnreadableAngle positive negative number hemisphere
  | number (filled : number ≠ []) (unread : ¬FieldFormat.number.accepts number) :
      IsUnreadableAngle positive negative number hemisphere
  | hemisphere (filled : hemisphere ≠ [])
      (undirected : ¬(hemisphere = positive ∨ hemisphere = negative)) :
      IsUnreadableAngle positive negative number hemisphere

/-- Groups of four fields one of which cannot be read. What stands behind a blank number
is not read. -/
inductive HasUnreadableGroup : List (List Char) → Prop
  | prn {prn elevation azimuth signal : List Char} {rest : List (List Char)}
      (filled : Text.trim prn ≠ []) (unread : ¬FieldFormat.word.accepts (Text.trim prn)) :
      HasUnreadableGroup (prn :: elevation :: azimuth :: signal :: rest)
  | detail {prn elevation azimuth signal text : List Char} {rest : List (List Char)}
      (numbered : Text.trim prn ≠ []) (member : text ∈ [elevation, azimuth, signal])
      (filled : Text.trim text ≠ []) (unread : ¬FieldFormat.number.accepts (Text.trim text)) :
      HasUnreadableGroup (prn :: elevation :: azimuth :: signal :: rest)
  | later {prn elevation azimuth signal : List Char} {rest : List (List Char)}
      (unreadable : HasUnreadableGroup rest) :
      HasUnreadableGroup (prn :: elevation :: azimuth :: signal :: rest)

inductive Fields.AreUnreadable : {kind : SentenceKind} → Fields kind → Prop
  | field {kind : SentenceKind} {fields : Fields kind} {index : Fin kind.fieldCount}
      {format : FieldFormat} (member : (index, format) ∈ kind.optionalFields)
      (filled : fields.trimmed index ≠ []) (unread : ¬format.accepts (fields.trimmed index)) :
      fields.AreUnreadable
  | coordinate {kind : SentenceKind} {fields : Fields kind} {place : CoordinatePlace kind}
      (member : place ∈ kind.coordinates)
      (unread : IsUnreadableAngle place.positive place.negative
        (fields.trimmed place.number) (fields.trimmed place.hemisphere)) :
      fields.AreUnreadable
  | status {fields : Fields .minimumData}
      (unknown : fields.trimmed 2 ∉ [[], ['A'], ['V']]) : fields.AreUnreadable
  /-- The number of a message, or of all messages, that is missing. -/
  | missing {fields : Fields .satellitesInView}
      (blank : fields.trimmed 1 = [] ∨ fields.trimmed 2 = []) : fields.AreUnreadable
  | satellite {fields : Fields .satellitesInView}
      (unreadable : HasUnreadableGroup (fields.texts.drop 4)) : fields.AreUnreadable

theorem GivesAngle.readable {positive negative number hemisphere : List Char}
    {value : Option Float} (gives : GivesAngle positive negative number hemisphere value)
    (positiveFilled : positive ≠ []) (negativeFilled : negative ≠ []) :
    ¬IsUnreadableAngle positive negative number hemisphere := by
  intro unreadable
  cases gives with
  | absent noNumber noHemisphere => cases unreadable <;> contradiction
  | positive filled reads _ direction =>
      cases unreadable with
      | noNumber blank _ => exact filled blank
      | noHemisphere _ blank => exact positiveFilled (direction.symm.trans blank)
      | number _ unread => exact unread (by rw [FieldFormat.accepts, reads]; rfl)
      | hemisphere _ undirected => exact undirected (.inl direction)
  | negative filled reads _ direction =>
      cases unreadable with
      | noNumber blank _ => exact filled blank
      | noHemisphere _ blank => exact negativeFilled (direction.symm.trans blank)
      | number _ unread => exact unread (by rw [FieldFormat.accepts, reads]; rfl)
      | hemisphere _ undirected => exact undirected (.inr direction)

namespace Fields

variable {kind : SentenceKind} {fields : Fields kind}

theorem coordinates_readable {northSouth eastWest : CoordinatePlace kind}
    {latitude longitude : Option Float} (places : kind.coordinates = [northSouth, eastWest])
    (northSouthGives : GivesAngle northSouth.positive northSouth.negative
      (fields.trimmed northSouth.number) (fields.trimmed northSouth.hemisphere) latitude)
    (eastWestGives : GivesAngle eastWest.positive eastWest.negative
      (fields.trimmed eastWest.number) (fields.trimmed eastWest.hemisphere) longitude)
    {place : CoordinatePlace kind} (member : place ∈ kind.coordinates) :
    ¬IsUnreadableAngle place.positive place.negative
      (fields.trimmed place.number) (fields.trimmed place.hemisphere) := by
  rcases kind.directions_ne_nil place member with ⟨positive, negative⟩
  rw [places, List.mem_pair] at member
  rcases member with rfl | rfl
  · exact northSouthGives.readable positive negative
  · exact eastWestGives.readable positive negative

theorem exists_coordinate (readable : ¬fields.AreUnreadable) (axis : Axis)
    (number hemisphere : Fin kind.fieldCount)
    (member : ⟨axis.positive, axis.negative, number, hemisphere⟩ ∈ kind.coordinates) :
    ∃ value, fields.coordinate axis number hemisphere = .ok value := by
  have allowed : ¬IsUnreadableAngle axis.positive axis.negative
      (fields.trimmed number) (fields.trimmed hemisphere) :=
    fun unread => readable (.coordinate member unread)
  rw [coordinate]
  by_cases noNumber : fields.trimmed number = []
  · have noHemisphere : fields.trimmed hemisphere = [] :=
      Decidable.not_not.mp fun filled => allowed (.noNumber noNumber filled)
    exact ⟨none, by rw [noNumber, noHemisphere]; rfl⟩
  · have filled : fields.trimmed hemisphere ≠ [] :=
      fun blank => allowed (.noHemisphere noNumber blank)
    have reads : (Number.double? (fields.trimmed number)).isSome = true :=
      Decidable.not_not.mp fun unread => allowed (.number noNumber unread)
    have direction : fields.trimmed hemisphere = axis.positive ∨
        fields.trimmed hemisphere = axis.negative :=
      Decidable.not_not.mp fun undirected => allowed (.hemisphere filled undirected)
    rcases Option.isSome_iff_exists.mp reads with ⟨value, reads⟩
    rcases direction with positive | negative
    · exact ⟨some (degreesOf value), by
        simp [noNumber, reads, positive, axis.positive_ne_negative]⟩
    · exact ⟨some (-degreesOf value), by simp [noNumber, reads, negative]⟩

theorem exists_optional {α : Type} (readable : ¬fields.AreUnreadable) (format : FieldFormat)
    (read : List Char → Option α) (index : Fin kind.fieldCount)
    (member : (index, format) ∈ kind.optionalFields)
    (accepts : ∀ text, format.accepts text = (read text).isSome) :
    ∃ value, fields.optional read index = .ok value := by
  refine exists_readField kind index fun filled => ?_
  rw [← accepts]
  exact Decidable.not_not.mp fun unread => readable (.field member filled unread)

end Fields

end ReceiverLog
