import ReceiverLog.Proofs.Files.Writing
import ReceiverLog.Proofs.Json.Printing
import ReceiverLog.Settings.Store

namespace ReceiverLog

/-! Settings are read back as they were: first from their JSON value, then from
its text, and last from the file that they were saved in. -/

namespace Json.Value

theorem record?_record (keys : List String) (members : List (String × Value)) :
    (Value.record members).record? keys
      = keys.mapM (member? · (members.map fun (key, value) => (some key, value))) := by
  simp [Value.record, record?]

end Json.Value

namespace MockSettings

private theorem readLatency?_integer (latency : Int64) :
    readLatency? (some (.integer latency.toInt)) = some (some latency) := by
  have bounds := And.intro latency.minValue_le_toInt latency.toInt_le
  simp only [Json.Value.integer, readLatency?, String.toList_ofList, Json.integer?_integerLiteral]
  rw [if_pos bounds, Int64.ofInt_toInt]

theorem read?_toJson (settings : MockSettings) : read? settings.toJson = some settings := by
  rcases settings with ⟨_ | latency⟩
  · rfl
  · simp [read?, toJson, Json.Value.record?_record, Json.Value.member?, readLatency?_integer]

theorem hasLiterals_toJson (settings : MockSettings) : settings.toJson.HasLiterals := by
  apply Json.Value.hasLiterals_record
  simp only [List.mem_map]
  rintro member ⟨latency, _, rfl⟩
  exact Json.Value.hasLiterals_integer latency.toInt

end MockSettings

namespace Settings

private theorem readMock?_toJson (settings : MockSettings) :
    readMock? (some settings.toJson) = some (some settings) := by
  change (MockSettings.read? settings.toJson).map some = _
  rw [settings.read?_toJson, Option.map_some]

theorem read?_toJson (settings : Settings) : read? settings.toJson = some settings := by
  rcases settings with ⟨directory, file, _ | mock⟩
  · simp [read?, toJson, Json.Value.record?_record, Json.Value.member?, Json.Value.textOr?,
      directoryKey, fileKey, mockKey, Json.Value.text, readMock?]
  · simp [read?, toJson, Json.Value.record?_record, Json.Value.member?, Json.Value.textOr?,
      directoryKey, fileKey, mockKey, Json.Value.text, readMock?_toJson]

theorem hasLiterals_toJson (settings : Settings) : settings.toJson.HasLiterals := by
  apply Json.Value.hasLiterals_record
  simp only [List.mem_append, List.mem_cons, List.not_mem_nil, or_false, List.mem_map]
  rintro member ((rfl | rfl) | ⟨mock, _, rfl⟩)
  · trivial
  · trivial
  · exact mock.hasLiterals_toJson

theorem ofText?_toText (settings : Settings) : ofText? settings.toText = some settings := by
  rw [ofText?, toText, String.toList_ofList,
    Json.Value.read?_indented settings.hasLiterals_toJson, Option.bind_some, read?_toJson]

theorem ofContents_toText (settings : Settings) :
    ofContents (Text.utf8 settings.toText) = .ok settings := by
  simp only [ofContents, Text.ofUtf8?_utf8, ofText?_toText]

variable {files after : FileTree} {working : NodeId} {path : String}

theorem load_of_lookup {contents : FileContents}
    (present : files.lookup working path = .ok (.file contents)) :
    load files working path = (ofContents contents.toList).mapError .settings := by
  rw [load, present]

private theorem loadLatency_of_lookup {contents : FileContents}
    (present : files.lookup working path = .ok (.file contents)) :
    loadLatency files working path =
      (load files working path).map fun loaded => loaded.mock.bind (·.latency) := by
  have isPresent : files.isPresent working path = true := by
    rw [FileTree.isPresent, present]
    rfl
  rw [loadLatency, isPresent]
  cases load files working path <;> rfl

theorem lookup_of_save {settings : Settings} (sound : files.IsSound)
    (rooted : files.IsRooted working) (saved : settings.save files working path = .ok after) :
    after.lookup working path = .ok (.file (.ofList (Text.utf8 settings.toText))) := by
  unfold save at saved
  split at saved
  · cases saved
  next made parents =>
  split at saved
  · cases saved
  next written writes =>
  cases saved
  exact FileTree.lookup_writeFile (sound.makePath parents) (rooted.makePath sound parents) writes

/-- Settings that have been saved are loaded again as they were, whatever they
say and wherever they are kept, and so is their latency. -/
theorem load_of_save {settings : Settings} (sound : files.IsSound)
    (rooted : files.IsRooted working) (saved : settings.save files working path = .ok after) :
    load after working path = .ok settings
      ∧ loadLatency after working path = .ok (settings.mock.bind (·.latency)) := by
  have present := lookup_of_save sound rooted saved
  have loaded : load after working path = .ok settings := by
    rw [load_of_lookup present, FileContents.toList_ofList, ofContents_toText]
    rfl
  rw [loadLatency_of_lookup present, loaded]
  exact ⟨rfl, rfl⟩

/-- Settings with every kind of character that is not written as itself, and with the least
latency, in a directory that is not there yet. -/
theorem load_of_save_escaped :
    let settings : Settings := ⟨"\"\\\x08\x0c\n\r\t\x00\x1f", "é🛰", some ⟨some Int64.minValue⟩⟩
    ∃ after, settings.save .empty FileTree.root "etc/gps.json" = .ok after
      ∧ load after FileTree.root "etc/gps.json" = .ok settings
      ∧ loadLatency after FileTree.root "etc/gps.json" = .ok (some (-9223372036854775808)) := by
  intro settings
  have reached : FileTree.IsReached .empty FileTree.root := .empty
  have saved : (settings.save .empty FileTree.root "etc/gps.json").isOk := by decide +kernel
  rcases exists_ok_of_isOk saved with ⟨after, saved⟩
  exact ⟨after, saved, load_of_save reached.isSound reached.isRooted saved⟩

end Settings

end ReceiverLog
