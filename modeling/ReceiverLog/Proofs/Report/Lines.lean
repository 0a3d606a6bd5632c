import Mathlib.Data.List.Forall2
import ReceiverLog.Proofs.Json.Floats
import ReceiverLog.Proofs.Json.OneLine
import ReceiverLog.Report
import ReceiverLog.Settings.Json
import ReceiverLog.Text.Bytes

namespace ReceiverLog

/-! Events as lines of JSON. A consumer cuts what it gets at the line ends and
reads each line by itself; so it learns of every event, in their order, what
kind it is, the text of a sentence and all integers. -/

/-! ## What a consumer reads -/

namespace Json

def Value.textAt? (key : String) : Value → Option String
  | .object members =>
      match member? key members.toList with
      | some (some (.string text)) => text
      | _ => none
  | _ => none

mutual
def Value.integersUnder (key : Option String) : Value → List (Option String × Int)
  | .number literal => (integer? literal.toList).toList.map (key, ·)
  | .array values => values.integersUnder key
  | .object members => members.integers
  | .null | .boolean _ | .string _ => []

def Values.integersUnder (key : Option String) : Values → List (Option String × Int)
  | .nil => []
  | .cons head tail => head.integersUnder key ++ tail.integersUnder key

def Members.integers : Members → List (Option String × Int)
  | .nil => []
  | .cons key value tail => value.integersUnder key ++ tail.integers
end

def Value.ofLine? (line : List UInt8) : Option Value :=
  (Text.ofUtf8? line).bind fun text => read? text.toList

end Json

inductive EventKind where
  | location | satellites | raw | status
  deriving DecidableEq

def EventKind.read? (value : Json.Value) : Option EventKind :=
  match value.textAt? "event", value.textAt? "type" with
  | some "decoded", some "location" => some .location
  | some "decoded", some "satellite_status" => some .satellites
  | some "raw", _ => some .raw
  | some "session", _ => some .status
  | _, _ => none

namespace Event

def kind : Event → EventKind
  | .location _ => .location
  | .satellites _ => .satellites
  | .raw _ => .raw
  | .status _ => .status

def text? : Event → Option String
  | .raw sentence => some sentence.text
  | _ => none

def status? : Event → Option SessionStatus
  | .status reached => some reached
  | _ => none

/-- The integers of an event by their names: its time, and of a sentence the
length; of satellites how many there are, and the code of each. -/
def integers : Event → List (String × Int)
  | .location found => [("timestamp", found.timestamp)]
  | .satellites listed =>
      ("count", (listed.length : Int)) :: listed.map fun satellite => ("prn", satellite.prn.toNat)
  | .raw sentence => [("timestamp", sentence.timestamp), ("length", (sentence.length : Int))]
  | .status _ => []

end Event

/-- Everything that a consumer of lines relies on. -/
structure Json.Value.TellsOf (value : Json.Value) (event : Event) : Prop where
  isObject : ∃ members, value = .object members
  kind : EventKind.read? value = some event.kind
  text : value.textAt? "text" = event.text?
  status : value.textAt? "status" = event.status?.map SessionStatus.name
  integers : value.integersUnder none = event.integers.map fun (key, value) => (some key, value)

/-! ## The value of an event -/

namespace Json

namespace Value

@[simp] theorem integersUnder_integer (key : Option String) (number : Int) :
    (integer number).integersUnder key = [(key, number)] := by
  simp [integer, integersUnder, integer?_integerLiteral]

@[simp] theorem integersUnder_text (key : Option String) (text : String) :
    (Value.text text).integersUnder key = [] := by
  simp [Value.text, integersUnder]

private theorem integersUnder_ofLiteral? (key : Option String) {found : Option (List Char)}
    (fractional : ∀ literal ∈ found, integer? literal = none) :
    (ofLiteral? found).integersUnder key = [] := by
  cases found with
  | none => simp [ofLiteral?, integersUnder]
  | some literal => simp [ofLiteral?, integersUnder, fractional literal rfl]

@[simp] theorem integersUnder_double (key : Option String) (number : Float) :
    (double number).integersUnder key = [] :=
  integersUnder_ofLiteral? key fun _ written => (isLiteral_doubleLiteral? written).2

@[simp] theorem integersUnder_single (key : Option String) (number : Float32) :
    (single number).integersUnder key = [] :=
  integersUnder_ofLiteral? key fun _ written => (isLiteral_singleLiteral? written).2

theorem integersUnder_list (key : Option String) (values : List Value) :
    (list values).integersUnder key = values.flatMap (integersUnder key) := by
  rw [list, integersUnder]
  induction values with
  | nil => rfl
  | cons head tail induction =>
    rw [Values.ofList, Values.integersUnder, induction, List.flatMap_cons]

theorem integersUnder_record (key : Option String) (members : List (String × Value)) :
    (record members).integersUnder key
      = members.flatMap fun (name, value) => value.integersUnder (some name) := by
  rw [record, integersUnder]
  induction members with
  | nil => rfl
  | cons head tail induction =>
    rw [List.map_cons, Members.ofList, Members.integers, induction, List.flatMap_cons]

end Value

end Json

open Json (Value)

theorem Satellite.hasLiterals_toJson (satellite : Satellite) : satellite.toJson.HasLiterals := by
  have single (number : Option Float32) : ((number.map Value.single).getD .null).HasLiterals := by
    cases number with
    | none => trivial
    | some number => exact Value.hasLiterals_single number
  apply Value.hasLiterals_record
  simp [Value.hasLiterals_integer, single]

theorem Satellite.integersUnder_toJson (satellite : Satellite) (key : Option String) :
    satellite.toJson.integersUnder key = [(some "prn", (satellite.prn.toNat : Int))] := by
  have single (name : String) (number : Option Float32) :
      ((number.map Value.single).getD .null).integersUnder (some name) = [] := by
    cases number with
    | none => simp [Value.integersUnder]
    | some number => simp
  simp [toJson, Value.integersUnder_record, single]

namespace Event

theorem hasLiterals_toJson (event : Event) : event.toJson.HasLiterals := by
  have text (text : String) : (Value.text text).HasLiterals := trivial
  cases event with
  | location location =>
    apply Value.hasLiterals_record
    simp [text, Value.hasLiterals_double, Value.hasLiterals_integer]
  | satellites listed =>
    have satellites : (Value.list (listed.map Satellite.toJson)).HasLiterals := by
      apply Value.hasLiterals_list
      simp [Satellite.hasLiterals_toJson]
    apply Value.hasLiterals_record
    simp [text, Value.hasLiterals_integer, satellites]
  | raw sentence =>
    apply Value.hasLiterals_record
    simp [text, Value.hasLiterals_integer]
  | status reached =>
    apply Value.hasLiterals_record
    simp [text]

theorem integersUnder_toJson (event : Event) :
    event.toJson.integersUnder none
      = event.integers.map fun (key, value) => (some key, value) := by
  cases event with
  | location location => simp [toJson, integers, Value.integersUnder_record]
  | satellites listed =>
    simp [toJson, integers, Value.integersUnder_record, Value.integersUnder_list,
      List.flatMap_map, Satellite.integersUnder_toJson, ← List.map_eq_flatMap]
  | raw sentence => simp [toJson, integers, Value.integersUnder_record]
  | status reached => simp [toJson, integers, Value.integersUnder_record]

theorem tellsOf_toJson (event : Event) : event.toJson.TellsOf event where
  isObject := by cases event <;> exact ⟨_, rfl⟩
  kind := by
    cases event <;>
      simp [EventKind.read?, Value.textAt?, toJson, Value.record, Value.member?, Value.text, kind]
  text := by
    cases event <;> simp [Value.textAt?, toJson, Value.record, Value.member?, Value.text, text?]
  status := by
    cases event <;>
      simp [Value.textAt?, toJson, Value.record, Value.member?, Value.text, status?]
  integers := event.integersUnder_toJson

end Event

/-! ## Lines as bytes -/

namespace Text

theorem utf8_ofList (text : List Char) :
    utf8 (String.ofList text) = text.flatMap String.utf8EncodeChar := by
  simp [utf8, String.toUTF8, List.utf8Encode]

def lineEnd : UInt8 := 10

/-- No other character has the byte that ends a line in its encoding: one byte
stands for itself, and all bytes of longer encodings are 128 or more. -/
theorem eq_newline_of_lineEnd_mem {character : Char}
    (member : lineEnd ∈ String.utf8EncodeChar character) : character = '\n' := by
  simp only [lineEnd, String.utf8EncodeChar] at member
  split_ifs at member
  all_goals simp only [List.mem_cons, List.not_mem_nil, or_false, ← UInt8.toNat_inj,
    UInt8.toNat_ofNat', UInt8.reduceToNat] at member
  · have code : character.toNat = '\n'.toNat := by
      change character.val.toNat = 10
      omega
    exact Char.toNat_inj.mp code
  all_goals omega

private theorem lineEnd_not_mem_utf8 {text : List Char} (no_newline : '\n' ∉ text) :
    lineEnd ∉ utf8 (String.ofList text) := by
  rw [utf8_ofList]
  intro member
  rcases List.mem_flatMap.mp member with ⟨character, inside, member⟩
  rw [eq_newline_of_lineEnd_mem member] at inside
  exact no_newline inside

theorem splitOn_lineEnd {lines : List (List UInt8)} (whole : ∀ line ∈ lines, lineEnd ∉ line) :
    (lines.flatMap (· ++ [lineEnd])).splitOn lineEnd = lines ++ [[]] := by
  induction lines with
  | nil => rfl
  | cons line rest induction =>
    rw [List.forall_mem_cons] at whole
    have inside : ∀ byte ∈ line, (byte == lineEnd) = false := by
      intro byte member
      exact beq_false_of_ne fun same => whole.1 (same ▸ member)
    rw [List.flatMap_cons, List.append_assoc, List.singleton_append, List.splitOn,
      List.splitOnP_append_cons_of_forall_mem inside lineEnd (beq_self_eq_true _),
      ← List.splitOn, induction whole.2, List.cons_append]

end Text

def Event.line (event : Event) : List UInt8 :=
  Text.utf8 (String.ofList event.toJson.compact)

theorem Event.lineEnd_not_mem_line (event : Event) : Text.lineEnd ∉ event.line :=
  Text.lineEnd_not_mem_utf8
    (event.toJson.isOneLine_compact event.hasLiterals_toJson).newline_not_mem

theorem Event.ofLine?_line (event : Event) : Value.ofLine? event.line = some event.toJson := by
  rw [Value.ofLine?, line, Text.ofUtf8?_utf8, Option.bind_some, String.toList_ofList,
    Value.read?_compact event.hasLiterals_toJson]

namespace Report

def jsonLines : Report where
  format := .json
  showRaw := true

def bytes (report : Report) (event : Event) : List UInt8 :=
  Text.utf8 (String.ofList (report.written .working event))

def allBytes (report : Report) (events : List Event) : List UInt8 :=
  Text.utf8 (String.ofList (events.flatMap (report.written .working)))

private theorem allBytes_eq_flatMap (report : Report) (events : List Event) :
    report.allBytes events = events.flatMap report.bytes := by
  have each : report.bytes
      = fun event => (report.written .working event).flatMap String.utf8EncodeChar :=
    funext fun event => Text.utf8_ofList (report.written .working event)
  rw [each, allBytes, Text.utf8_ofList, List.flatMap_assoc]

private theorem bytes_jsonLines (event : Event) :
    jsonLines.bytes event = event.line ++ [Text.lineEnd] := by
  have shown : jsonLines.isShown event = true := by
    cases event <;> rfl
  have written : jsonLines.written .working event = event.toJson.compact ++ ['\n'] := by
    rw [Report.written, bursts, if_pos shown]
    exact List.append_nil (jsonLine event)
  rw [bytes, written, Event.line, Text.utf8_ofList, Text.utf8_ofList, List.flatMap_append]
  rfl

/-- A line break inside a text is written as an escape. -/
example : jsonLines.written .working (.raw (.of 7 "a\n\""))
    = ("\x7b\"event\":\"raw\",\"timestamp\":7,"
        ++ "\"text\":\"a\\n\\\"\",\"length\":3\x7d\n").toList := by
  decide

/-- Whatever events are reported, and whatever is in their texts and numbers,
each writes one line that ends where the event ends and nowhere before. The
output cut at its line ends is those lines, and each of them spells an object
that tells of its event. -/
theorem lines_tell_events (events : List Event) :
    ∃ lines : List (List UInt8),
      events.map jsonLines.bytes = lines.map (· ++ [Text.lineEnd])
        ∧ (∀ line ∈ lines, Text.lineEnd ∉ line)
        ∧ (jsonLines.allBytes events).splitOn Text.lineEnd = lines ++ [[]]
        ∧ List.Forall₂
            (fun line event => ∃ value, Value.ofLine? line = some value ∧ value.TellsOf event)
            lines events := by
  have whole : ∀ line ∈ events.map Event.line, Text.lineEnd ∉ line := by
    simp only [List.forall_mem_map]
    exact fun event _ => event.lineEnd_not_mem_line
  have joined : jsonLines.allBytes events
      = (events.map Event.line).flatMap (· ++ [Text.lineEnd]) := by
    rw [allBytes_eq_flatMap, List.flatMap_map, funext bytes_jsonLines]
  refine ⟨events.map Event.line, ?_, whole, ?_, ?_⟩
  · simp [bytes_jsonLines]
  · rw [joined, Text.splitOn_lineEnd whole]
  · rw [List.forall₂_map_left_iff, List.forall₂_same]
    exact fun event _ => ⟨event.toJson, event.ofLine?_line, event.tellsOf_toJson⟩

end Report

end ReceiverLog
