import ReceiverLog.Proofs.Decoder.Listing
import ReceiverLog.Proofs.Sentence.Values

namespace ReceiverLog

/-! What an accepted sentence tells of each of its fields, one kind of sentence after the
other; and that a sentence is refused for no other reason than a field that cannot be read. -/

structure FixData.IsTold (fields : Fields .fixData) (data : FixData) : Prop where
  time : Gives TimeOfDay.read? (fields.trimmed 1) data.time
  latitude : GivesAngle ['N'] ['S'] (fields.trimmed 2) (fields.trimmed 3) data.latitude
  longitude : GivesAngle ['E'] ['W'] (fields.trimmed 4) (fields.trimmed 5) data.longitude
  quality : Gives Number.byte? (fields.trimmed 6) data.quality
  satellitesUsed : Gives Number.byte? (fields.trimmed 7) data.satellitesUsed
  horizontalDilution : Gives Number.double? (fields.trimmed 8) data.horizontalDilution
  altitude : Gives Number.double? (fields.trimmed 9) data.altitude
  geoidSeparation : Gives Number.double? (fields.trimmed 11) data.geoidSeparation
  correctionAge : Gives Number.double? (fields.trimmed 13) data.correctionAge
  correctionStation : Gives Number.word? (fields.trimmed 14) data.correctionStation

namespace FixData

variable {talker : String} {fields : Fields .fixData} {data : FixData}

theorem IsTold.readable (told : data.IsTold fields) : ¬fields.AreUnreadable := by
  intro unreadable
  cases unreadable with
  | field member filled unread =>
      simp only [SentenceKind.optionalFields, List.mem_cons, Prod.mk.injEq, List.not_mem_nil,
        or_false] at member
      rcases member with ⟨rfl, rfl⟩ | ⟨rfl, rfl⟩ | ⟨rfl, rfl⟩ | ⟨rfl, rfl⟩ | ⟨rfl, rfl⟩ |
        ⟨rfl, rfl⟩ | ⟨rfl, rfl⟩ | ⟨rfl, rfl⟩
      · exact unread (told.time.readable filled)
      · exact unread (told.quality.readable filled)
      · exact unread (told.satellitesUsed.readable filled)
      · exact unread (told.horizontalDilution.readable filled)
      · exact unread (told.altitude.readable filled)
      · exact unread (told.geoidSeparation.readable filled)
      · exact unread (told.correctionAge.readable filled)
      · exact unread (told.correctionStation.readable filled)
  | coordinate member unread =>
      exact Fields.coordinates_readable rfl told.latitude told.longitude member unread

theorem exists_read (readable : ¬fields.AreUnreadable) (talker : String) :
    ∃ data, read talker fields = .ok data := by
  rcases fields.exists_optional readable .time TimeOfDay.read? 1 (by decide) fun _ => rfl
    with ⟨time, timeRead⟩
  rcases fields.exists_coordinate readable .northSouth 2 3 (by decide)
    with ⟨latitude, latitudeRead⟩
  rcases fields.exists_coordinate readable .eastWest 4 5 (by decide)
    with ⟨longitude, longitudeRead⟩
  rcases fields.exists_optional readable .byte Number.byte? 6 (by decide) fun _ => rfl
    with ⟨quality, qualityRead⟩
  rcases fields.exists_optional readable .byte Number.byte? 7 (by decide) fun _ => rfl
    with ⟨satellitesUsed, satellitesUsedRead⟩
  rcases fields.exists_optional readable .number Number.double? 8 (by decide) fun _ => rfl
    with ⟨dilution, dilutionRead⟩
  rcases fields.exists_optional readable .number Number.double? 9 (by decide) fun _ => rfl
    with ⟨altitude, altitudeRead⟩
  rcases fields.exists_optional readable .number Number.double? 11 (by decide) fun _ => rfl
    with ⟨separation, separationRead⟩
  rcases fields.exists_optional readable .number Number.double? 13 (by decide) fun _ => rfl
    with ⟨age, ageRead⟩
  rcases fields.exists_optional readable .word Number.word? 14 (by decide) fun _ => rfl
    with ⟨station, stationRead⟩
  rw [read, timeRead, latitudeRead, longitudeRead, qualityRead, satellitesUsedRead, dilutionRead,
    altitudeRead, separationRead, ageRead, stationRead]
  exact ⟨_, rfl⟩

end FixData

structure MinimumData.IsTold (fields : Fields .minimumData) (data : MinimumData) : Prop where
  time : Gives TimeOfDay.read? (fields.trimmed 1) data.time
  status : fields.trimmed 2 ∈ [[], ['A'], ['V']]
  valid : data.valid = true ↔ fields.trimmed 2 = ['A']
  latitude : GivesAngle ['N'] ['S'] (fields.trimmed 3) (fields.trimmed 4) data.latitude
  longitude : GivesAngle ['E'] ['W'] (fields.trimmed 5) (fields.trimmed 6) data.longitude
  speedKnots : Gives Number.double? (fields.trimmed 7) data.speedKnots
  track : Gives Number.double? (fields.trimmed 8) data.track
  date : Gives Date.read? (fields.trimmed 9) data.date
  /-- The field behind the variation plays no part but for turning it to the west. -/
  magneticVariation : ∃ variation, Gives Number.double? (fields.trimmed 10) variation ∧
    data.magneticVariation =
      if fields.trimmed 11 = ['W'] then variation.map (- ·) else variation

namespace MinimumData

variable {talker : String} {fields : Fields .minimumData} {data : MinimumData}

private theorem exists_readStatus (known : fields.trimmed 2 ∈ [[], ['A'], ['V']]) :
    ∃ valid, readStatus fields = .ok valid := by
  rw [readStatus]
  simp only [List.mem_cons, List.not_mem_nil, or_false] at known
  rcases known with status | status | status
  · exact ⟨false, by rw [status]; rfl⟩
  · exact ⟨true, by rw [status]; rfl⟩
  · exact ⟨false, by rw [status]; rfl⟩

theorem IsTold.readable (told : data.IsTold fields) : ¬fields.AreUnreadable := by
  intro unreadable
  cases unreadable with
  | field member filled unread =>
      simp only [SentenceKind.optionalFields, List.mem_cons, Prod.mk.injEq, List.not_mem_nil,
        or_false] at member
      rcases member with ⟨rfl, rfl⟩ | ⟨rfl, rfl⟩ | ⟨rfl, rfl⟩ | ⟨rfl, rfl⟩ | ⟨rfl, rfl⟩
      · exact unread (told.time.readable filled)
      · exact unread (told.speedKnots.readable filled)
      · exact unread (told.track.readable filled)
      · exact unread (told.date.readable filled)
      · rcases told.magneticVariation with ⟨_, gives, _⟩
        exact unread (gives.readable filled)
  | coordinate member unread =>
      exact Fields.coordinates_readable rfl told.latitude told.longitude member unread
  | status unknown => exact unknown told.status

theorem exists_read (readable : ¬fields.AreUnreadable) (talker : String) :
    ∃ data, read talker fields = .ok data := by
  rcases exists_readStatus (Decidable.not_not.mp fun unknown => readable (.status unknown))
    with ⟨valid, statusRead⟩
  rcases fields.exists_optional readable .number Number.double? 10 (by decide) fun _ => rfl
    with ⟨variation, variationRead⟩
  rcases fields.exists_optional readable .time TimeOfDay.read? 1 (by decide) fun _ => rfl
    with ⟨time, timeRead⟩
  rcases fields.exists_coordinate readable .northSouth 3 4 (by decide)
    with ⟨latitude, latitudeRead⟩
  rcases fields.exists_coordinate readable .eastWest 5 6 (by decide)
    with ⟨longitude, longitudeRead⟩
  rcases fields.exists_optional readable .number Number.double? 7 (by decide) fun _ => rfl
    with ⟨speed, speedRead⟩
  rcases fields.exists_optional readable .number Number.double? 8 (by decide) fun _ => rfl
    with ⟨track, trackRead⟩
  rcases fields.exists_optional readable .date Date.read? 9 (by decide) fun _ => rfl
    with ⟨date, dateRead⟩
  rw [read, statusRead, readVariation, variationRead, timeRead, latitudeRead, longitudeRead,
    speedRead, trackRead, dateRead]
  exact ⟨_, rfl⟩

end MinimumData

structure ActiveSatellites.IsTold (fields : Fields .activeSatellites)
    (data : ActiveSatellites) : Prop where
  selection : Gives SelectionMode.ofText? (fields.trimmed 1) data.selection
  fixMode : Gives Number.byte? (fields.trimmed 2) data.fixMode
  /-- The numbers are those of the fields that are not blank, in their order. -/
  prns : ((prnFields.map fields.trimmed).filter (· ≠ [])).map Number.word? = data.prns.map some
  positionDilution : Gives Number.double? (fields.trimmed 15) data.positionDilution
  horizontalDilution : Gives Number.double? (fields.trimmed 16) data.horizontalDilution
  verticalDilution : Gives Number.double? (fields.trimmed 17) data.verticalDilution

namespace ActiveSatellites

variable {talker : String} {fields : Fields .activeSatellites} {data : ActiveSatellites}

private theorem exists_readSelection (readable : ¬fields.AreUnreadable) :
    ∃ selection, readSelection fields = .ok selection := by
  have accepted (filled : fields.trimmed 1 ≠ []) : FieldFormat.mode.accepts (fields.trimmed 1) :=
    Decidable.not_not.mp fun unread => readable (.field (by decide) filled unread)
  rw [readSelection]
  generalize fields.trimmed 1 = mode at accepted ⊢
  by_cases blank : mode = []
  · exact ⟨none, if_pos blank⟩
  · have known : (SelectionMode.ofText? mode).isSome = true := accepted blank
    unfold SelectionMode.ofText? at known
    split at known
    · exact ⟨some .automatic, rfl⟩
    · exact ⟨some .manual, rfl⟩
    · cases known

private theorem exists_mapM_optional (readable : ¬fields.AreUnreadable) :
    ∃ prns, prnFields.mapM (fields.optional Number.word?) = .ok prns := by
  apply exists_mapM_ok
  intro place member
  have optional : (place, FieldFormat.word) ∈ SentenceKind.optionalFields .activeSatellites :=
    List.mem_append_left _ (List.mem_append_right _ (List.mem_map_of_mem member))
  exact fields.exists_optional readable .word Number.word? place optional fun _ => rfl

private theorem IsTold.prn_readable (told : data.IsTold fields)
    {place : Fin (SentenceKind.fieldCount .activeSatellites)} (member : place ∈ prnFields)
    (filled : fields.trimmed place ≠ []) :
    (Number.word? (fields.trimmed place)).isSome = true := by
  have listed : fields.trimmed place ∈ (prnFields.map fields.trimmed).filter (· ≠ []) :=
    List.mem_filter.mpr ⟨List.mem_map_of_mem member, by simpa using filled⟩
  have read : Number.word? (fields.trimmed place) ∈ data.prns.map some :=
    told.prns ▸ List.mem_map_of_mem listed
  rcases List.mem_map.mp read with ⟨prn, _, equal⟩
  rw [← equal]
  rfl

theorem IsTold.readable (told : data.IsTold fields) : ¬fields.AreUnreadable := by
  intro unreadable
  cases unreadable with
  | field member filled unread =>
      simp only [SentenceKind.optionalFields, List.mem_append, List.mem_cons, Prod.mk.injEq,
        List.not_mem_nil, or_false, List.mem_map] at member
      rcases member with ((⟨rfl, rfl⟩ | ⟨rfl, rfl⟩) | ⟨place, inUse, rfl, rfl⟩) |
        ⟨rfl, rfl⟩ | ⟨rfl, rfl⟩ | ⟨rfl, rfl⟩
      · exact unread (told.selection.readable filled)
      · exact unread (told.fixMode.readable filled)
      · exact unread (told.prn_readable inUse filled)
      · exact unread (told.positionDilution.readable filled)
      · exact unread (told.horizontalDilution.readable filled)
      · exact unread (told.verticalDilution.readable filled)
  | coordinate member _ => cases member

theorem exists_read (readable : ¬fields.AreUnreadable) (talker : String) :
    ∃ data, read talker fields = .ok data := by
  rcases exists_readSelection readable with ⟨selection, selectionRead⟩
  rcases exists_mapM_optional readable with ⟨prns, prnsRead⟩
  rcases fields.exists_optional readable .byte Number.byte? 2 (by decide) fun _ => rfl
    with ⟨mode, modeRead⟩
  rcases fields.exists_optional readable .number Number.double? 15 (by decide) fun _ => rfl
    with ⟨position, positionRead⟩
  rcases fields.exists_optional readable .number Number.double? 16 (by decide) fun _ => rfl
    with ⟨horizontal, horizontalRead⟩
  rcases fields.exists_optional readable .number Number.double? 17 (by decide) fun _ => rfl
    with ⟨vertical, verticalRead⟩
  rw [read, selectionRead, prnsRead, modeRead, positionRead, horizontalRead, verticalRead]
  exact ⟨_, rfl⟩

end ActiveSatellites

/-! ## Satellites -/

/-- The satellites that groups of four fields give: one for each number that is not
blank. Fields left over after the last whole group give none. -/
inductive GivesSatellites : List (List Char) → List Satellite → Prop
  | few {texts : List (List Char)} (few : texts.length < 4) : GivesSatellites texts []
  | unnumbered {prn elevation azimuth signal : List Char} {rest : List (List Char)}
      {listed : List Satellite} (blank : Text.trim prn = [])
      (others : GivesSatellites rest listed) :
      GivesSatellites (prn :: elevation :: azimuth :: signal :: rest) listed
  | numbered {prn elevation azimuth signal : List Char} {rest : List (List Char)}
      {satellite : Satellite} {listed : List Satellite}
      (prnGiven : Gives Number.word? (Text.trim prn) (some satellite.prn))
      (elevationGiven : Gives Number.single? (Text.trim elevation) satellite.elevation)
      (azimuthGiven : Gives Number.single? (Text.trim azimuth) satellite.azimuth)
      (signalGiven : Gives Number.single? (Text.trim signal) satellite.signal)
      (others : GivesSatellites rest listed) :
      GivesSatellites (prn :: elevation :: azimuth :: signal :: rest) (satellite :: listed)

/-- A message carries what is left of its talker's roster and the satellites that it
lists itself. -/
structure SatellitesInView.IsTold (roster : Roster) (fields : Fields .satellitesInView)
    (data : SatellitesInView) : Prop where
  messages : Gives Number.byte? (fields.trimmed 1) (some data.messages)
  number : Gives Number.byte? (fields.trimmed 2) (some data.number)
  inView : Gives Number.word? (fields.trimmed 3) data.inView
  satellites : ∃ listed, GivesSatellites (fields.texts.drop 4) listed ∧
    (data.satellites, data.truncated) =
      Roster.enterAll (if data.number ≤ 1 then [] else roster) listed

namespace SatellitesInView

variable {talker : String} {roster : Roster} {fields : Fields .satellitesInView}
  {data : SatellitesInView}

private theorem exists_readGroup {prn elevation azimuth signal : List Char}
    {rest : List (List Char)}
    (readable : ¬HasUnreadableGroup (prn :: elevation :: azimuth :: signal :: rest))
    (index : Nat) : ∃ satellite, readGroup index prn elevation azimuth signal = .ok satellite := by
  have numberReads (filled : Text.trim prn ≠ []) : FieldFormat.word.accepts (Text.trim prn) :=
    Decidable.not_not.mp fun unread => readable (.prn filled unread)
  rcases exists_readField .satellitesInView index numberReads with ⟨number, numberRead⟩
  rw [readGroup, numberRead]
  cases number with
  | none => exact ⟨none, rfl⟩
  | some number =>
      have numbered : Text.trim prn ≠ [] := (gives_of_readField numberRead).filled
      have detailRead {text : List Char} (member : text ∈ [elevation, azimuth, signal])
          (place : Nat) :
          ∃ value, readField .satellitesInView place Number.single? text = .ok value := by
        refine exists_readField .satellitesInView place fun filled => ?_
        rw [Number.isSome_single?]
        exact Decidable.not_not.mp fun unread => readable (.detail numbered member filled unread)
      rcases detailRead (.head _) (index + 1) with ⟨elevations, elevationRead⟩
      rcases detailRead (.tail _ (.head _)) (index + 2) with ⟨azimuths, azimuthRead⟩
      rcases detailRead (.tail _ (.tail _ (.head _))) (index + 3) with ⟨signals, signalRead⟩
      refine ⟨some {
        prn := number, signal := signals, elevation := elevations, azimuth := azimuths }, ?_⟩
      dsimp only [bind, Except.bind]
      rw [elevationRead, azimuthRead, signalRead]
      rfl

private theorem exists_readGroups {texts : List (List Char)} (readable : ¬HasUnreadableGroup texts)
    (index : Nat) : ∃ listed, readGroups index texts = .ok listed := by
  fun_induction readGroups index texts with
  | case1 index prn elevation azimuth signal rest induction =>
      rcases induction fun later => readable (.later later) with ⟨others, restRead⟩
      rcases exists_readGroup readable index with ⟨satellite, groupRead⟩
      rw [groupRead, restRead]
      exact ⟨_, rfl⟩
  | case2 texts index few => exact ⟨[], rfl⟩

end SatellitesInView

theorem GivesSatellites.readable {texts : List (List Char)} {listed : List Satellite}
    (gives : GivesSatellites texts listed) : ¬HasUnreadableGroup texts := by
  induction gives with
  | few few =>
      intro unreadable
      cases unreadable <;> simp at few <;> omega
  | unnumbered blank _ induction =>
      intro unreadable
      cases unreadable with
      | prn filled _ => exact filled blank
      | detail numbered _ _ _ => exact numbered blank
      | later unreadable => exact induction unreadable
  | numbered prn elevation azimuth signal _ induction =>
      intro unreadable
      cases unreadable with
      | prn filled unread => exact unread (prn.readable filled)
      | detail _ member filled unread =>
          rw [FieldFormat.accepts, ← Number.isSome_single?] at unread
          simp only [List.mem_cons, List.not_mem_nil, or_false] at member
          rcases member with rfl | rfl | rfl
          · exact unread (elevation.readable filled)
          · exact unread (azimuth.readable filled)
          · exact unread (signal.readable filled)
      | later unreadable => exact induction unreadable

namespace SatellitesInView

variable {talker : String} {roster : Roster} {fields : Fields .satellitesInView}
  {data : SatellitesInView}

theorem IsTold.readable (told : data.IsTold roster fields) : ¬fields.AreUnreadable := by
  intro unreadable
  cases unreadable with
  | field member filled unread =>
      simp only [SentenceKind.optionalFields, List.mem_cons, Prod.mk.injEq, List.not_mem_nil,
        or_false] at member
      rcases member with ⟨rfl, rfl⟩ | ⟨rfl, rfl⟩ | ⟨rfl, rfl⟩
      · exact unread (told.messages.readable filled)
      · exact unread (told.number.readable filled)
      · exact unread (told.inView.readable filled)
  | coordinate member _ => cases member
  | missing blank => exact blank.elim told.messages.filled told.number.filled
  | satellite unreadable =>
      rcases told.satellites with ⟨listed, gives, _⟩
      exact gives.readable unreadable

private theorem exists_required (readable : ¬fields.AreUnreadable)
    (index : Fin (SentenceKind.fieldCount .satellitesInView))
    (member : (index, FieldFormat.byte) ∈ SentenceKind.optionalFields .satellitesInView)
    (filled : fields.trimmed index ≠ []) :
    ∃ value, fields.required Number.byte? index = .ok value := by
  rcases fields.exists_optional readable .byte Number.byte? index member fun _ => rfl
    with ⟨value, valueRead⟩
  cases Fields.gives_of_optional valueRead with
  | absent blank => exact absurd blank filled
  | present _ _ =>
      rw [Fields.required, valueRead]
      exact ⟨_, rfl⟩

theorem exists_read (readable : ¬fields.AreUnreadable) (talker : String) (roster : Roster) :
    ∃ data, read talker roster fields = .ok data := by
  rcases exists_required readable 1 (by decide) fun blank => readable (.missing (.inl blank))
    with ⟨messages, messagesRead⟩
  rcases exists_required readable 2 (by decide) fun blank => readable (.missing (.inr blank))
    with ⟨number, numberRead⟩
  rcases fields.exists_optional readable .word Number.word? 3 (by decide) fun _ => rfl
    with ⟨inView, inViewRead⟩
  rcases exists_readGroups (fun unreadable => readable (.satellite unreadable)) 4
    with ⟨listed, listedRead⟩
  rw [read, messagesRead, numberRead, inViewRead, listedRead]
  exact ⟨_, rfl⟩

end SatellitesInView

/-! ## Sentences -/

inductive Sentence.IsTold (rosters : Rosters) (texts : List (List Char)) :
    Address → Sentence → Prop
  | fixData {fields : Fields .fixData} {data : FixData} (whole : fields.texts = texts)
      (told : data.IsTold fields) : IsTold rosters texts ⟨data.talker, .fixData⟩ (.fixData data)
  | satellitesInView {fields : Fields .satellitesInView} {data : SatellitesInView}
      (whole : fields.texts = texts) (told : data.IsTold (rosters.of data.talker) fields) :
      IsTold rosters texts ⟨data.talker, .satellitesInView⟩ (.satellitesInView data)
  | activeSatellites {fields : Fields .activeSatellites} {data : ActiveSatellites}
      (whole : fields.texts = texts) (told : data.IsTold fields) :
      IsTold rosters texts ⟨data.talker, .activeSatellites⟩ (.activeSatellites data)
  | minimumData {fields : Fields .minimumData} {data : MinimumData}
      (whole : fields.texts = texts) (told : data.IsTold fields) :
      IsTold rosters texts ⟨data.talker, .minimumData⟩ (.minimumData data)

def SentenceKind.IsUnreadable (kind : SentenceKind) (texts : List (List Char)) : Prop :=
  texts.length < kind.fieldCount ∨
    ∃ fields : Fields kind, fields.texts = texts ∧ fields.AreUnreadable

namespace Fields

variable {kind : SentenceKind} {texts : List (List Char)}

theorem exists_of (enough : ¬texts.length < kind.fieldCount) :
    ∃ fields : Fields kind, Fields.of kind texts = .ok fields :=
  ⟨_, dif_pos (Nat.le_of_not_lt enough)⟩

theorem readable_of_texts_eq {fields : Fields kind} (whole : fields.texts = texts)
    (readable : ¬fields.AreUnreadable) : ¬kind.IsUnreadable texts := by
  subst whole
  rintro (few | ⟨others, same, unreadable⟩)
  · exact Nat.not_le_of_lt few fields.enough
  · cases fields
    cases others
    cases same
    exact readable unreadable

end Fields

namespace Sentence

variable {rosters : Rosters} {body : List Char} {address : Address}

theorem IsTold.readable {texts : List (List Char)} {sentence : Sentence}
    (told : sentence.IsTold rosters texts address) : ¬address.kind.IsUnreadable texts := by
  cases told with
  | fixData whole told => exact Fields.readable_of_texts_eq whole told.readable
  | satellitesInView whole told => exact Fields.readable_of_texts_eq whole told.readable
  | activeSatellites whole told => exact Fields.readable_of_texts_eq whole told.readable
  | minimumData whole told => exact Fields.readable_of_texts_eq whole told.readable

private theorem exists_ofFields (rosters : Rosters) (talker : String) {kind : SentenceKind}
    {fields : Fields kind} (readable : ¬fields.AreUnreadable) :
    ∃ result, ofFields rosters talker fields = .ok result := by
  cases kind with
  | fixData =>
      rcases FixData.exists_read readable talker with ⟨data, dataRead⟩
      rw [ofFields, dataRead]
      exact ⟨_, rfl⟩
  | satellitesInView =>
      rcases SatellitesInView.exists_read readable talker (rosters.of talker)
        with ⟨data, dataRead⟩
      rw [ofFields, dataRead]
      exact ⟨_, rfl⟩
  | activeSatellites =>
      rcases ActiveSatellites.exists_read readable talker with ⟨data, dataRead⟩
      rw [ofFields, dataRead]
      exact ⟨_, rfl⟩
  | minimumData =>
      rcases MinimumData.exists_read readable talker with ⟨data, dataRead⟩
      rw [ofFields, dataRead]
      exact ⟨_, rfl⟩

theorem exists_read (rosters : Rosters)
    (addressed : Address.read? ((Text.split ',' body).headD []) = some address)
    (readable : ¬address.kind.IsUnreadable (Text.split ',' body)) :
    ∃ result, read rosters body = .ok result := by
  rcases Fields.exists_of fun few => readable (.inl few) with ⟨fields, found⟩
  have allReadable : ¬fields.AreUnreadable := fun unreadable =>
    readable (.inr ⟨fields, Fields.texts_eq_of_of found, unreadable⟩)
  rw [read_of_some addressed, found]
  exact exists_ofFields rosters address.talker allReadable

end Sentence

namespace Frame

def texts (frame : Frame) : List (List Char) :=
  Text.split ',' (characters frame.body)

/-- A frame of ASCII bytes whose check digits write its check value. -/
structure IsChecked (frame : Frame) : Prop where
  ascii : frame.bytes.all isAscii = true
  writes : frame.Writes (checksum frame.body)

variable {frame : Frame}

theorem IsChecked.decode (checked : frame.IsChecked) (rosters : Rosters) :
    frame.decode rosters = Sentence.read rosters (characters frame.body) := by
  have reads := Number.checkByte?_eq_some_iff.mpr checked.writes
  rcases decode_cases checked.ascii rosters with
    ⟨unread, _⟩ | ⟨expected, read, ⟨different, _⟩ | ⟨_, decoded⟩⟩
  · cases unread.symm.trans reads
  · cases read.symm.trans reads
    exact absurd rfl different
  · exact decoded

end Frame

end ReceiverLog
