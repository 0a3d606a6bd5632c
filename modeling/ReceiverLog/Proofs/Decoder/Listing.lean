import Mathlib.Data.List.DropRight
import ReceiverLog.Proofs.Decoder.Chunks
import ReceiverLog.Proofs.Except
import ReceiverLog.Proofs.Roster.Collecting
import ReceiverLog.Text.Bytes

namespace ReceiverLog

/-! The satellites that messages carry. A message lists some satellites of its own,
and carries those that its talker has listed in the running sequence: from the last
message that starts a sequence on, or since everything was forgotten. Nothing else
that is decoded in between has a say. -/

/-! ## What a message lists -/

structure Message where
  data : SatellitesInView
  raw : String

/-- The satellites of whole groups of four fields. A group whose number is blank is
none. -/
def Satellite.listedIn : List (List Char) → List Satellite
  | prn :: elevation :: azimuth :: signal :: rest =>
      let satellite? := (Number.word? (Text.trim prn)).map fun prn => {
        prn
        signal := Number.single? (Text.trim signal)
        elevation := Number.single? (Text.trim elevation)
        azimuth := Number.single? (Text.trim azimuth) }
      satellite?.toList ++ listedIn rest
  | _ => []

namespace Message

def fields (message : Message) : List (List Char) :=
  Text.split ',' ((message.raw.toList.drop 1).rdrop 3)

def listed (message : Message) : List Satellite :=
  Satellite.listedIn (message.fields.drop 4)

def startsAnew (message : Message) : Bool :=
  message.data.number ≤ 1

end Message

/-! ## What is told of calls -/

inductive Call where
  | feed (feed : Feed)
  | reset

inductive Answer where
  | outcome (outcome : Outcome)
  | forgotten

namespace Answer

def isForgotten : Answer → Bool
  | .forgotten => true
  | .outcome _ => false

def message? : Answer → Option Message
  | .outcome (.sentence (.satellitesInView data) raw) => some { data, raw }
  | _ => none

end Answer

def Message.answer (message : Message) : Answer :=
  .outcome (.sentence (.satellitesInView message.data) message.raw)

private theorem Answer.eq_answer_of_message? {answer : Answer} {message : Message}
    (told : answer.message? = some message) : answer = message.answer := by
  unfold message? at told
  split at told
  · cases told
    rfl
  · cases told

/-- What calls come to, one after the other. A feed that is rejected tells nothing. -/
def Decoder.answers (decoder : Decoder) : List Call → List Answer
  | [] => []
  | .reset :: calls => .forgotten :: decoder.reset.answers calls
  | .feed feed :: calls =>
      match decoder.feed feed.buffer feed.length with
      | .error _ => decoder.answers calls
      | .ok (outcomes, after) => outcomes.map .outcome ++ after.answers calls

/-- The messages of a talker's running sequence: from the last that starts one on, or
all since everything was forgotten if none does. -/
def running (talker : String) (answers : List Answer) : List Message :=
  let recent := answers.rtakeWhile (!·.isForgotten)
  let messages := (recent.filterMap Answer.message?).filter (·.data.talker = talker)
  (messages.rdropWhile (!·.startsAnew)).getLast?.toList ++ messages.rtakeWhile (!·.startsAnew)

def runningList (talker : String) (answers : List Answer) : List Satellite :=
  (running talker answers).flatMap Message.listed

section Running

variable {talker : String} (answers : List Answer)

theorem running_concat_forgotten : running talker (answers ++ [.forgotten]) = [] := by
  simp [running, Answer.isForgotten]

theorem running_concat_other {outcome : Outcome}
    (foreign : ∀ message, (Answer.outcome outcome).message? = some message →
      message.data.talker ≠ talker) :
    running talker (answers ++ [.outcome outcome]) = running talker answers := by
  have still : (!(Answer.outcome outcome).isForgotten) = true := rfl
  rw [running, List.rtakeWhile_concat, if_pos still, List.filterMap_append, List.filter_append]
  cases told : (Answer.outcome outcome).message? with
  | none => simp [told, running]
  | some message => simp [told, foreign message told, running]

theorem running_concat_answer {message : Message} (own : message.data.talker = talker) :
    running talker (answers ++ [message.answer]) =
      if message.startsAnew then [message] else running talker answers ++ [message] := by
  have still : (!message.answer.isForgotten) = true := rfl
  have told : [message.answer].filterMap Answer.message? = [message] := rfl
  have kept : [message].filter (·.data.talker = talker) = [message] := by simp [own]
  rw [running, List.rtakeWhile_concat, if_pos still, List.filterMap_append, told,
    List.filter_append, kept]
  cases anew : message.startsAnew with
  | true => simp [anew]
  | false => simp [anew, running]

end Running

/-! ## Reading a message -/

theorem eq_of_readField {α : Type} {kind : SentenceKind} {index : Nat}
    {read : List Char → Option α} {text : List Char} {value : Option α}
    (blank : read [] = none) (found : readField kind index read text = .ok value) :
    value = read (Text.trim text) := by
  unfold readField at found
  dsimp only at found
  split at found
  · next empty =>
      cases found
      rw [List.isEmpty_iff.mp empty, blank]
  · split at found
    · next present =>
        cases found
        rw [present]
    · cases found

private theorem Number.word?_nil : word? [] = none := rfl

theorem Number.single?_nil : single? [] = none := rfl

namespace SatellitesInView

private theorem listedIn_of_readGroup {index : Nat} {prn elevation azimuth signal : List Char}
    {satellite : Option Satellite} (rest : List (List Char))
    (read : readGroup index prn elevation azimuth signal = .ok satellite) :
    Satellite.listedIn (prn :: elevation :: azimuth :: signal :: rest) =
      satellite.toList ++ Satellite.listedIn rest := by
  rcases exists_ok_of_bind read with ⟨number, numberRead, others⟩
  have numbered := eq_of_readField Number.word?_nil numberRead
  rw [Satellite.listedIn, ← numbered]
  cases number with
  | none =>
      cases others
      rfl
  | some number =>
      rcases exists_ok_of_bind others with ⟨elevations, elevationRead, others⟩
      rcases exists_ok_of_bind others with ⟨azimuths, azimuthRead, others⟩
      rcases exists_ok_of_bind others with ⟨signals, signalRead, others⟩
      cases others
      rw [eq_of_readField Number.single?_nil elevationRead,
        eq_of_readField Number.single?_nil azimuthRead,
        eq_of_readField Number.single?_nil signalRead]
      rfl

theorem eq_listedIn_of_readGroups {index : Nat} {groups : List (List Char)}
    {satellites : List Satellite} (read : readGroups index groups = .ok satellites) :
    satellites = Satellite.listedIn groups := by
  fun_induction readGroups index groups generalizing satellites with
  | case1 index prn elevation azimuth signal rest induction =>
      rcases exists_ok_of_bind read with ⟨satellite, groupRead, others⟩
      rcases exists_ok_of_bind others with ⟨later, restRead, others⟩
      cases others
      rw [listedIn_of_readGroup rest groupRead, induction restRead]
  | case2 index groups few =>
      cases read
      rw [Satellite.listedIn]
      exact few

theorem read_eq {talker : String} {roster : Roster} {fields : Fields .satellitesInView}
    {data : SatellitesInView} (accepted : read talker roster fields = .ok data) :
    data.talker = talker ∧
      (data.satellites, data.truncated) =
        Roster.enterAll (if data.number ≤ 1 then [] else roster)
          (Satellite.listedIn (fields.texts.drop 4)) := by
  rcases exists_ok_of_bind accepted with ⟨messages, _, accepted⟩
  rcases exists_ok_of_bind accepted with ⟨number, _, accepted⟩
  rcases exists_ok_of_bind accepted with ⟨inView, _, accepted⟩
  rcases exists_ok_of_bind accepted with ⟨listed, groupsRead, accepted⟩
  cases accepted
  rw [← eq_listedIn_of_readGroups groupsRead]
  simp [startsSequence]

end SatellitesInView

theorem Sentence.read_rosters {rosters updated : Rosters} {body : List Char}
    {sentence : Sentence} (accepted : Sentence.read rosters body = .ok (sentence, updated)) :
    (∃ data, sentence = .satellitesInView data ∧
        updated = rosters.set data.talker data.satellites ∧
        Address.read? ((Text.split ',' body).headD []) =
          some { talker := data.talker, kind := .satellitesInView } ∧
        (data.satellites, data.truncated) =
          Roster.enterAll (if data.number ≤ 1 then [] else rosters.of data.talker)
            (Satellite.listedIn ((Text.split ',' body).drop 4))) ∨
      ((∀ data, sentence ≠ .satellitesInView data) ∧ updated = rosters) := by
  cases addressed : Address.read? ((Text.split ',' body).headD []) with
  | none =>
      rw [read_of_none addressed] at accepted
      cases accepted
      exact .inr ⟨nofun, rfl⟩
  | some address =>
      rcases address with ⟨talker, kind⟩
      rw [read_of_some addressed] at accepted
      rcases exists_ok_of_bind accepted with ⟨fields, found, accepted⟩
      cases kind with
      | satellitesInView =>
          rcases exists_ok_of_bind accepted with ⟨data, dataRead, accepted⟩
          cases accepted
          rcases SatellitesInView.read_eq dataRead with ⟨rfl, carried⟩
          rw [Fields.texts_eq_of_of found] at carried
          exact .inl ⟨data, rfl, rfl, rfl, carried⟩
      | fixData =>
          rcases exists_ok_of_bind accepted with ⟨data, _, accepted⟩
          cases accepted
          exact .inr ⟨nofun, rfl⟩
      | activeSatellites =>
          rcases exists_ok_of_bind accepted with ⟨data, _, accepted⟩
          cases accepted
          exact .inr ⟨nofun, rfl⟩
      | minimumData =>
          rcases exists_ok_of_bind accepted with ⟨data, _, accepted⟩
          cases accepted
          exact .inr ⟨nofun, rfl⟩

namespace Frame

theorem read_of_decode {frame : Frame} {rosters : Rosters} {result : Sentence × Rosters}
    (accepted : frame.decode rosters = .ok result) :
    Sentence.read rosters (characters frame.body) = .ok result := by
  unfold decode at accepted
  split at accepted
  · cases accepted
  dsimp only at accepted
  split at accepted
  · cases accepted
  · split at accepted
    · cases accepted
    · exact accepted

private theorem fields_text (frame : Frame) (data : SatellitesInView) :
    Message.fields { data, raw := frame.text } = Text.split ',' (characters frame.body) := by
  have body : (frame.text.toList.drop 1).rdrop 3 = characters frame.body := by
    simp [text, bytes, characters, List.rdrop]
  rw [Message.fields, body]

end Frame

/-! ## What messages carry -/

/-- A message carries what its talker's running sequence lists, itself included. -/
structure Message.Carries (message : Message) (before : List Answer) : Prop where
  satellites : message.data.satellites =
    Roster.collected (runningList message.data.talker (before ++ [message.answer]))
  truncated : message.data.truncated = message.listed.any fun satellite =>
    !(Roster.kept (runningList message.data.talker (before ++ [message.answer]))).contains
      satellite.prn

/-- After some answers, the rosters are those of the running sequences, and all
messages among the answers carry theirs. -/
structure Remembers (rosters : Rosters) (answers : List Answer) : Prop where
  roster : ∀ talker, rosters.of talker = Roster.collected (runningList talker answers)
  carried : ∀ place message, answers[place]?.bind Answer.message? = some message →
    message.Carries (answers.take place)

namespace Remembers

variable {rosters : Rosters} {answers : List Answer}

theorem nothing : Remembers [] [] where
  roster := fun _ => rfl
  carried := nofun

theorem carried_concat (remembers : Remembers rosters answers) {answer : Answer}
    (carries : ∀ message, answer.message? = some message → message.Carries answers) :
    ∀ place message, (answers ++ [answer])[place]?.bind Answer.message? = some message →
      message.Carries ((answers ++ [answer]).take place) := by
  intro place message told
  rcases Nat.lt_trichotomy place answers.length with earlier | rfl | beyond
  · rw [List.getElem?_append_left earlier] at told
    rw [List.take_append_of_le_length (Nat.le_of_lt earlier)]
    exact remembers.carried place message told
  · rw [List.getElem?_concat_length] at told
    rw [List.take_left]
    exact carries message told
  · have none : (answers ++ [answer])[place]? = none := by
      rw [List.getElem?_eq_none_iff, List.length_append]
      exact beyond
    rw [none] at told
    cases told

theorem forgotten (remembers : Remembers rosters answers) :
    Remembers [] (answers ++ [.forgotten]) where
  roster := by
    intro talker
    rw [runningList, running_concat_forgotten]
    rfl
  carried := remembers.carried_concat nofun

theorem other (remembers : Remembers rosters answers) (outcome : Outcome)
    (noMessage : (Answer.outcome outcome).message? = none) :
    Remembers rosters (answers ++ [.outcome outcome]) where
  roster := by
    intro talker
    rw [runningList, running_concat_other answers (by simp [noMessage])]
    exact remembers.roster talker
  carried := by
    refine remembers.carried_concat ?_
    intro message told
    cases noMessage.symm.trans told

theorem message (remembers : Remembers rosters answers) (message : Message)
    (entered : (message.data.satellites, message.data.truncated) =
      Roster.enterAll (if message.data.number ≤ 1 then [] else rosters.of message.data.talker)
        message.listed) :
    Remembers (rosters.set message.data.talker message.data.satellites)
      (answers ++ [message.answer]) := by
  -- What was listed before counts unless the message starts a sequence.
  have before : (if message.data.number ≤ 1 then [] else rosters.of message.data.talker) =
      Roster.collected
        (if message.startsAnew then [] else runningList message.data.talker answers) := by
    by_cases anew : message.data.number ≤ 1
    · simp only [Message.startsAnew, anew, decide_true, if_true]
      rfl
    · simp only [Message.startsAnew, anew, decide_false, if_false, Bool.false_eq_true]
      exact remembers.roster _
  have now : runningList message.data.talker (answers ++ [message.answer]) =
      (if message.startsAnew then [] else runningList message.data.talker answers) ++
        message.listed := by
    rw [runningList, running_concat_answer answers rfl]
    cases message.startsAnew <;> simp [runningList]
  rw [before, Roster.enterAll_collected, ← now, Prod.mk.injEq] at entered
  refine ⟨?_, remembers.carried_concat ?_⟩
  · intro talker
    rw [Rosters.of_set]
    split
    · next own =>
        rw [← own]
        exact entered.1
    · next foreign =>
        have same : running talker (answers ++ [message.answer]) = running talker answers := by
          apply running_concat_other
          intro other told
          cases told
          exact foreign
        rw [runningList, same]
        exact remembers.roster talker
  · intro told same
    cases same
    exact ⟨entered.1, entered.2⟩

/-! ## Decoding -/

theorem settle (remembers : Remembers rosters answers) (frame : Frame) (rest : List UInt8) :
    Remembers (frame.settle rosters rest).2.1
      (answers ++ [.outcome (frame.settle rosters rest).1]) := by
  rw [Frame.settle]
  cases decoded : frame.decode rosters with
  | error reason => exact remembers.other _ rfl
  | ok result =>
      rcases result with ⟨sentence, updated⟩
      rcases Sentence.read_rosters (Frame.read_of_decode decoded) with
        ⟨data, rfl, rfl, _, entered⟩ | ⟨noMessage, rfl⟩
      · rw [← frame.fields_text data] at entered
        exact remembers.message { data, raw := frame.text } entered
      · refine remembers.other _ ?_
        cases sentence with
        | satellitesInView data => exact absurd rfl (noMessage data)
        | _ => rfl

theorem scan (remembers : Remembers rosters answers) (bytes : List UInt8) :
    Remembers (Decoder.scan rosters bytes).2.rosters
      (answers ++ (Decoder.scan rosters bytes).1.map .outcome) := by
  induction rosters, bytes using Decoder.scan_induction generalizing answers with
  | silent rosters bytes silent =>
      rw [Decoder.scan_silent silent]
      simpa using remembers
  | undecided rosters bytes fragment undecided =>
      rw [Decoder.scan_undecided undecided]
      simpa using remembers
  | broken rosters bytes reason rest broken induction =>
      have later := induction (remembers.other (.malformed reason) rfl)
      rw [Decoder.scan_broken broken, List.map_cons, List.append_cons]
      exact later
  | complete rosters bytes frame rest complete induction =>
      have later := induction (remembers.settle frame rest)
      rw [Decoder.scan_complete complete, List.map_cons, List.append_cons]
      exact later

theorem answers_append (decoder : Decoder) (remembers : Remembers decoder.rosters answers)
    (calls : List Call) :
    ∃ final, Remembers final (answers ++ decoder.answers calls) := by
  induction calls generalizing decoder answers with
  | nil => exact ⟨_, by simpa [Decoder.answers] using remembers⟩
  | cons call calls induction =>
      cases call with
      | reset =>
          rw [Decoder.answers, List.append_cons]
          exact induction decoder.reset remembers.forgotten
      | feed feed =>
          rw [Decoder.answers]
          rcases Nat.lt_or_ge feed.buffer.length feed.length with beyond | within
          · rw [Decoder.feed_rejected beyond]
            exact induction decoder remembers
          · rw [Decoder.feed_accepted within]
            dsimp only
            rw [← List.append_assoc]
            exact induction _ (remembers.scan _)

end Remembers

/-- However a stream is cut and whatever else is in it, a message carries the first
distinct satellites, as far as there is room, that its talker has listed in the running
sequence, each with the data listed last; and it is truncated exactly if it lists one for
which there is no room. -/
theorem Decoder.satellites_eq_collected {calls : List Call} {place : Nat} {message : Message}
    (told : (fresh.answers calls)[place]? = some message.answer) :
    let listed := runningList message.data.talker ((fresh.answers calls).take (place + 1))
    let satellites := message.data.satellites
    satellites.map (·.prn) = Roster.kept listed ∧
      (∀ satellite ∈ satellites, Roster.latest? listed satellite.prn = some satellite) ∧
      (satellites.map (·.prn)).Nodup ∧ satellites.length ≤ 32 ∧
      (message.data.truncated = true ↔
        ∃ satellite ∈ message.listed, satellite.prn ∉ Roster.kept listed) := by
  intro listed satellites
  rcases Remembers.nothing.answers_append fresh calls with ⟨_, remembers⟩
  have carries := remembers.carried place message (by
    rw [List.nil_append, told]
    rfl)
  have upTo : (fresh.answers calls).take (place + 1) =
      (fresh.answers calls).take place ++ [message.answer] := by
    rw [List.take_add_one, told]
    rfl
  rw [List.nil_append] at carries
  have collected : satellites = Roster.collected listed := by
    simp only [satellites, listed, carries.satellites, upTo]
  have numbers : satellites.map (·.prn) = Roster.kept listed := by
    rw [collected, Roster.map_prn_collected]
  refine ⟨numbers, ?_, ?_, ?_, ?_⟩
  · intro satellite member
    exact Roster.latest?_of_mem_collected (collected ▸ member)
  · rw [numbers]
    exact Roster.kept_nodup listed
  · rw [← List.length_map (·.prn), numbers]
    exact Roster.length_kept_le listed
  · rw [carries.truncated, ← upTo]
    simp [listed]

/-- A sequence that is forgotten, and one that goes on behind a message that cannot be
read and a message of another talker, all cut in the middle. -/
theorem Decoder.satellites_eq_collected_again :
    let bytes (text : String) : Call :=
      .feed { buffer := Text.utf8 text, length := text.length }
    let calls : List Call := [
      bytes "$GPGSV,1,1,1,9,,,*71", .reset,
      bytes "$GPGSV,2,1,2,1,,,,2,,,*4B$GPGSV,2,x,2,7,,,*36$GLG",
      bytes "SV,1,1,1,8,,,*6C$GPGSV,2,2,2,3,,,,1,,,30*4A"]
    ∃ message : Message, (fresh.answers calls)[5]? = some message.answer ∧
      message.data.satellites.map (·.prn) = [1, 2, 3] ∧
      ∀ satellite ∈ message.data.satellites,
        Roster.latest? (runningList message.data.talker ((fresh.answers calls).take 6))
          satellite.prn = some satellite := by
  intro bytes calls
  have numbers : ((fresh.answers calls)[5]?.bind Answer.message?).map
      (·.data.satellites.map (·.prn)) = some [1, 2, 3] := by
    decide +kernel
  rcases Option.map_eq_some_iff.mp numbers with ⟨message, found, numbers⟩
  rcases Option.bind_eq_some_iff.mp found with ⟨answer, told, isMessage⟩
  rw [Answer.eq_answer_of_message? isMessage] at told
  exact ⟨message, told, numbers, (satellites_eq_collected told).2.1⟩

end ReceiverLog
