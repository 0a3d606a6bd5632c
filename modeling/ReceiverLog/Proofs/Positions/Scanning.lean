import ReceiverLog.Proofs.Decoder.Chunks
import ReceiverLog.Proofs.Positions.Reading

namespace ReceiverLog

/-! Decoding by position: what has been carried over and what comes in are held as one
list, a position in it goes from one start marker to the next, and in the end all bytes
before the position are dropped. Every slice is in range, the position never stands still,
and what is decoded is the same. -/

open Lookup

/-! ## Frames -/

def Frame.lookUp (rosters : Rosters) (bytes : List UInt8) :
    Lookup (Sentence × String × Rosters) :=
  if !bytes.all isAscii then throw .notAscii
  else do
    let text := characters bytes
    let star ← checked (distance? (Text.encoded text).length 3)
    let body ← checked (Text.slice? text 1 star)
    let first ← checked (distance? (Text.encoded text).length 2)
    let digits ← checked (Text.sliceFrom? text first)
    match Number.checkByte? digits with
    | none => throw (.invalidChecksum digits)
    | some expected =>
        let computed := checksum (Text.encoded body)
        if expected ≠ computed then throw (.checksumMismatch expected computed)
        else do
          let (sentence, updated) ← Sentence.lookUp rosters body
          return (sentence, String.ofList text, updated)

namespace Frame

section Slices

variable {frame : Frame} (ascii : frame.bytes.all isAscii = true)

include ascii

private theorem slice?_body :
    Text.slice? (characters frame.bytes) 1 (frame.body.length + 1) =
      some (characters frame.body) := by
  have length : (characters frame.bytes).length = frame.body.length + 4 := by
    simp [characters, bytes]
  rw [(isAscii_characters ascii).slice?_eq (by omega) (by omega)]
  simp [characters, bytes]

private theorem sliceFrom?_digits :
    Text.sliceFrom? (characters frame.bytes) (frame.body.length + 2) =
      some (characters [frame.first, frame.second]) := by
  have parts : characters frame.bytes =
      characters (startMarker :: frame.body ++ [star]) ++
        characters [frame.first, frame.second] := by
    simp [characters, bytes]
  have length : (characters (startMarker :: frame.body ++ [star])).length =
      frame.body.length + 2 := by
    simp [characters]
  rw [(isAscii_characters ascii).sliceFrom?_eq (by simp [characters, bytes]), parts,
    List.drop_left' length]

end Slices

theorem lookUp_eq (frame : Frame) (rosters : Rosters) :
    lookUp rosters frame.bytes =
      found (frame.decode rosters >>= fun read => pure (read.1, frame.text, read.2)) := by
  rw [lookUp, decode]
  cases ascii : frame.bytes.all isAscii with
  | false => rfl
  | true =>
      have bodyAscii : frame.body.all isAscii = true := by
        rw [List.all_eq_true] at ascii ⊢
        intro byte member
        exact ascii byte (by simp [bytes, member])
      have length : (characters frame.bytes).length = frame.body.length + 4 := by
        simp [characters, bytes]
      have star : distance? (frame.body.length + 4) 3 = some (frame.body.length + 1) :=
        distance?_of_le (Nat.le_add_left 3 _)
      have first : distance? (frame.body.length + 4) 2 = some (frame.body.length + 2) :=
        distance?_of_le (Nat.le_add_left 2 _)
      dsimp only
      rw [(isAscii_characters ascii).length_encoded, length, bind_checked star,
        bind_checked (slice?_body ascii), bind_checked first,
        bind_checked (sliceFrom?_digits ascii), encoded_characters bodyAscii]
      cases Number.checkByte? (characters [frame.first, frame.second]) with
      | none => rfl
      | some expected =>
          by_cases different : expected ≠ checksum frame.body
          · simp only [if_pos different]
            rfl
          · simp only [if_neg different]
            apply bind_found (Sentence.lookUp_eq rosters (isAscii_characters bodyAscii))
            intro read
            rfl

end Frame

/-! ## The loop -/

/-- Where the loop goes from one position: it stops, and drops all before a position, or
it goes on from another. -/
inductive Move where
  | stop (outcomes : List Outcome) (finish : Nat)
  | advance (outcome : Outcome) (rosters : Rosters) (position : Nat)

namespace Move

variable (bytes : List UInt8) (rosters : Rosters)

def behind (star : Nat) : Malformed → Nat
  | .invalidChecksum _ => star + 1
  | _ => star + 3

def ofStar? (start length : Nat) : Option Move :=
  let star := start + 1 + length
  if longestBody < length then some (.advance (.malformed .tooLong) rosters (star + 1))
  else if bytes.length < star + 3 then some (.stop [] start)
  else do
    let frame ← slice? bytes start (star + 3)
    match ← (Frame.lookUp rosters frame).run with
    | .ok (sentence, text, updated) =>
        return .advance (.sentence sentence text) updated (star + 3)
    | .error reason => return .advance (.malformed reason) rosters (behind star reason)

def ofStart? (start : Nat) : Option Move := do
  let behind ← sliceFrom? bytes (start + 1)
  match behind.findIdx? isMarker with
  | none =>
      let length ← distance? bytes.length (start + 1)
      if longestBody < length then return .stop [.malformed .tooLong] bytes.length
      else return .stop [] start
  | some length =>
      let marker ← bytes[start + 1 + length]?
      if marker = startMarker then
        return .advance (.malformed .truncated) rosters (start + 1 + length)
      else ofStar? bytes rosters start length

def of? (position : Nat) : Option Move := do
  let ahead ← sliceFrom? bytes position
  match ahead.findIdx? (· == startMarker) with
  | none => return .stop [] bytes.length
  | some offset => ofStart? bytes rosters (position + offset)

variable {rosters}

private theorem findIdx?_append_cons {quiet : List UInt8} {byte : UInt8} {test : UInt8 → Bool}
    (passed : ∀ other ∈ quiet, test other = false) (reached : test byte = true)
    (rest : List UInt8) :
    (quiet ++ byte :: rest).findIdx? test = some quiet.length := by
  have nowhere : quiet.findIdx? test = none := List.findIdx?_eq_none_iff.mpr passed
  simp [List.findIdx?_append, nowhere, List.findIdx?_cons, reached]

private theorem beq_startMarker_of_quiet {quiet : List UInt8} (isQuiet : startMarker ∉ quiet) :
    ∀ byte ∈ quiet, (byte == startMarker) = false := by
  intro byte member
  have different : byte ≠ startMarker := fun equal => isQuiet (equal ▸ member)
  simpa using different

theorem of?_quiet (before : List UInt8) {quiet : List UInt8} (isQuiet : startMarker ∉ quiet) :
    of? (before ++ quiet) rosters before.length = some (.stop [] (before ++ quiet).length) := by
  have nowhere : quiet.findIdx? (· == startMarker) = none :=
    List.findIdx?_eq_none_iff.mpr (beq_startMarker_of_quiet isQuiet)
  simp only [of?, sliceFrom?_append, Option.bind_eq_bind, Option.bind_some, nowhere]
  rfl

theorem of?_startMarker (before : List UInt8) {quiet : List UInt8}
    (isQuiet : startMarker ∉ quiet) (rest : List UInt8) :
    of? (before ++ (quiet ++ startMarker :: rest)) rosters before.length =
      ofStart? (before ++ quiet ++ startMarker :: rest) rosters (before ++ quiet).length := by
  have reached : (quiet ++ startMarker :: rest).findIdx? (· == startMarker) =
      some quiet.length :=
    findIdx?_append_cons (beq_startMarker_of_quiet isQuiet) BEq.rfl rest
  simp only [of?, sliceFrom?_append, Option.bind_eq_bind, Option.bind_some, reached,
    List.append_assoc, List.length_append]

section Body

variable (before : List UInt8) {body : List UInt8} (isBody : IsBody body)

include isBody

theorem ofStart?_body :
    ofStart? (before ++ startMarker :: body) rosters before.length =
      some (if longestBody < body.length
        then .stop [.malformed .tooLong] (before ++ startMarker :: body).length
        else .stop [] before.length) := by
  have nowhere : body.findIdx? isMarker = none := List.findIdx?_eq_none_iff.mpr isBody
  have length : distance? (before ++ startMarker :: body).length (before.length + 1) =
      some body.length := by
    rw [distance?_of_le (by simp)]
    simp only [List.length_append, List.length_cons]
    congr
    omega
  simp only [ofStart?, sliceFrom?_append_cons, Option.bind_eq_bind, Option.bind_some, nowhere,
    length]
  split <;> rfl

theorem ofStart?_marker {marker : UInt8} (marked : isMarker marker = true) (rest : List UInt8) :
    ofStart? (before ++ startMarker :: (body ++ marker :: rest)) rosters before.length =
      if marker = startMarker then
        some (.advance (.malformed .truncated) rosters (before ++ startMarker :: body).length)
      else
        ofStar? (before ++ startMarker :: (body ++ marker :: rest)) rosters before.length
          body.length := by
  have reached := findIdx?_append_cons isBody marked rest
  have position : before.length + 1 + body.length = (before ++ startMarker :: body).length := by
    rw [List.length_append, List.length_cons]
    omega
  have there : (before ++ startMarker :: (body ++ marker :: rest))[
      before.length + 1 + body.length]? = some marker := by
    rw [position, ← List.cons_append, ← List.append_assoc, List.getElem?_append_right (by simp)]
    simp
  simp only [ofStart?, sliceFrom?_append_cons, Option.bind_eq_bind, Option.bind_some, reached,
    there]
  rw [position]
  rfl

end Body

section Star

variable (before : List UInt8) {body : List UInt8}

theorem ofStar?_long (long : longestBody < body.length) (rest : List UInt8) :
    ofStar? (before ++ startMarker :: (body ++ star :: rest)) rosters before.length body.length =
      some (.advance (.malformed .tooLong) rosters
        (before ++ startMarker :: (body ++ [star])).length) := by
  rw [ofStar?, if_pos long]
  simp only [List.length_append, List.length_cons, List.length_nil, Nat.add_assoc,
    Nat.add_comm 1]

theorem ofStar?_few (short : body.length ≤ longestBody) {digits : List UInt8}
    (few : digits.length < 2) :
    ofStar? (before ++ startMarker :: (body ++ star :: digits)) rosters before.length
      body.length = some (.stop [] before.length) := by
  have ends : (before ++ startMarker :: (body ++ star :: digits)).length <
      before.length + 1 + body.length + 3 := by
    simp only [List.length_append, List.length_cons]
    omega
  rw [ofStar?, if_neg (Nat.not_lt.mpr short), if_pos ends]

private theorem exists_passed_resume (frame : Frame) (reason : Malformed) (rest : List UInt8) :
    ∃ passed, before ++ (frame.bytes ++ rest) = passed ++ frame.resume reason rest ∧
      before.length < passed.length ∧
      passed.length = behind (before.length + 1 + frame.body.length) reason := by
  have whole : ∃ passed, before ++ (frame.bytes ++ rest) = passed ++ rest ∧
      before.length < passed.length ∧
      passed.length = before.length + 1 + frame.body.length + 3 := by
    refine ⟨before ++ frame.bytes, ?_, ?_, ?_⟩
    · rw [List.append_assoc]
    · simp [Frame.bytes]
    · simp only [Frame.bytes, List.length_append, List.length_cons, List.length_nil]
      omega
  cases reason with
  | invalidChecksum digits =>
      refine ⟨before ++ startMarker :: (frame.body ++ [star]), ?_, ?_, ?_⟩
      · simp [Frame.bytes, Frame.resume]
      · simp
      · simp only [behind, List.length_append, List.length_cons, List.length_nil]
        omega
  | _ => exact whole

variable (rosters) in
private theorem ofStar?_frame (frame : Frame) (short : frame.body.length ≤ longestBody)
    (rest : List UInt8) :
    ∃ passed, before ++ (frame.bytes ++ rest) = passed ++ (frame.settle rosters rest).2.2 ∧
      before.length < passed.length ∧
      ofStar? (before ++ (frame.bytes ++ rest)) rosters before.length frame.body.length =
        some (.advance (frame.settle rosters rest).1 (frame.settle rosters rest).2.1
          passed.length) := by
  have length : frame.bytes.length = frame.body.length + 4 := by simp [Frame.bytes]
  have enough : ¬(before ++ (frame.bytes ++ rest)).length <
      before.length + 1 + frame.body.length + 3 := by
    simp only [List.length_append, length]
    omega
  have stop : before.length + 1 + frame.body.length + 3 = before.length + frame.bytes.length := by
    omega
  rw [ofStar?, if_neg (Nat.not_lt.mpr short), if_neg enough, stop, slice?_append,
    Frame.settle]
  have looked := Frame.lookUp_eq frame rosters
  cases decoded : frame.decode rosters with
  | ok read =>
      rw [decoded] at looked
      refine ⟨before ++ frame.bytes, ?_, ?_, ?_⟩
      · simp
      · simp [length]
      · rw [List.length_append]
        simp only [Option.bind_eq_bind, Option.bind_some, looked, run_found]
        rfl
  | error reason =>
      rcases exists_passed_resume before frame reason rest with ⟨passed, split, further, position⟩
      refine ⟨passed, split, further, ?_⟩
      rw [decoded] at looked
      rw [position]
      simp only [Option.bind_eq_bind, Option.bind_some, looked, run_found]
      rfl

end Star

/-- What a move from one position means: nothing is told but by it and by the loop from
where it leads; and it leads further, and not out of the bytes. -/
inductive Leads (rosters : Rosters) (before remaining : List UInt8) : Move → Prop
  | stop {outcomes : List Outcome} {passed kept : List UInt8} :
      before ++ remaining = passed ++ kept → before.length ≤ passed.length →
      Decoder.scan rosters remaining = (outcomes, { carry := kept, rosters }) →
      Leads rosters before remaining (.stop outcomes passed.length)
  | advance {outcome : Outcome} {updated : Rosters} {passed rest : List UInt8} :
      before ++ remaining = passed ++ rest → before.length < passed.length →
      Decoder.scan rosters remaining =
        (outcome :: (Decoder.scan updated rest).1, (Decoder.scan updated rest).2) →
      Leads rosters before remaining (.advance outcome updated passed.length)

theorem exists_leads (rosters : Rosters) (before remaining : List UInt8) :
    ∃ move, of? (before ++ remaining) rosters before.length = some move ∧
      Leads rosters before remaining move := by
  rcases Framing.exists_stands remaining with ⟨framing, stands⟩
  have framed := stands.of_eq
  -- The shape of what remains decides which way the loop takes, and every position it
  -- looks at is the length of a part of that shape.
  cases stands with
  | silent isQuiet =>
      have scanned : Decoder.scan rosters _ = _ := Decoder.scan_silent framed
      exact ⟨_, of?_quiet before isQuiet, .stop (List.append_nil _).symm (by simp) scanned⟩
  | openBody isQuiet isBody short =>
      have scanned : Decoder.scan rosters _ = _ := Decoder.scan_undecided framed
      rw [of?_startMarker before isQuiet, ofStart?_body _ isBody, if_neg (Nat.not_lt.mpr short)]
      exact ⟨_, rfl, .stop (List.append_assoc _ _ _).symm (by simp) scanned⟩
  | openDigits isQuiet isBody short few =>
      have scanned : Decoder.scan rosters _ = _ := Decoder.scan_undecided framed
      rw [of?_startMarker before isQuiet, ofStart?_marker _ isBody isMarker_star,
        if_neg star_ne_startMarker, ofStar?_few _ short few]
      exact ⟨_, rfl, .stop (List.append_assoc _ _ _).symm (by simp) scanned⟩
  | @truncated quiet body rest isQuiet isBody =>
      have scanned : Decoder.scan rosters _ = _ := Decoder.scan_broken framed
      rw [of?_startMarker before isQuiet, ofStart?_marker _ isBody isMarker_startMarker,
        if_pos rfl]
      have further : before.length < (before ++ quiet ++ startMarker :: body).length := by
        simp only [List.length_append, List.length_cons]
        omega
      exact ⟨_, rfl, .advance (by simp) further scanned⟩
  | overlong isQuiet isBody long =>
      have scanned : Decoder.scan rosters _ = _ := Decoder.scan_broken framed
      rw [Decoder.scan_silent (Framing.of_quiet List.not_mem_nil)] at scanned
      rw [of?_startMarker before isQuiet, ofStart?_body _ isBody, if_pos long]
      exact ⟨_, rfl, .stop (by simp) (by simp) scanned⟩
  | @overlongStar quiet body rest isQuiet isBody long =>
      have scanned : Decoder.scan rosters _ = _ := Decoder.scan_broken framed
      rw [of?_startMarker before isQuiet, ofStart?_marker _ isBody isMarker_star,
        if_neg star_ne_startMarker, ofStar?_long _ long]
      have further : before.length < (before ++ quiet ++ startMarker :: (body ++ [star])).length := by
        simp only [List.length_append, List.length_cons]
        omega
      exact ⟨_, rfl, .advance (by simp) further scanned⟩
  | @complete quiet body first second rest isQuiet isBody short =>
      have scanned : Decoder.scan rosters _ = _ := Decoder.scan_complete framed
      rw [of?_startMarker before isQuiet, ofStart?_marker _ isBody isMarker_star,
        if_neg star_ne_startMarker]
      rcases ofStar?_frame rosters (before ++ quiet) { body, first, second } short rest with
        ⟨passed, split, further, moved⟩
      have spelled : Frame.bytes { body, first, second } ++ rest =
          startMarker :: (body ++ star :: first :: second :: rest) := by
        simp [Frame.bytes]
      rw [spelled] at split moved
      rw [List.length_append] at further
      rw [List.append_assoc] at split
      exact ⟨_, moved, .advance split (by omega) scanned⟩

end Move

/-! ## The whole loop -/

private theorem Move.length_lt_of_advance {bytes : List UInt8} {rosters updated : Rosters}
    {position next : Nat} {outcome : Outcome}
    (moved : of? bytes rosters position = some (.advance outcome updated next)) :
    bytes.length - next < bytes.length - position := by
  by_cases inside : position ≤ bytes.length
  · have length : (bytes.take position).length = position := List.length_take_of_le inside
    rcases exists_leads rosters (bytes.take position) (bytes.drop position) with
      ⟨move, found, leads⟩
    rw [length, List.take_append_drop, moved, Option.some.injEq] at found
    subst found
    cases leads with
    | @advance _ _ passed rest split further scanned =>
        have total := congrArg List.length split
        rw [List.take_append_drop, List.length_append] at total
        rw [length] at further
        omega
  · have outside : sliceFrom? bytes position = none :=
      if_neg fun within => inside within.1
    simp [of?, outside] at moved

/-- What the loop comes to: the outcomes, the rosters after them, the positions at which
it began anew, and the position before which all bytes are dropped. -/
structure Sweep where
  outcomes : List Outcome
  rosters : Rosters
  heads : List Nat
  finish : Nat

namespace Sweep

def of? (bytes : List UInt8) (rosters : Rosters) (position : Nat) : Option Sweep :=
  match _ : Move.of? bytes rosters position with
  | none => none
  | some (.stop outcomes finish) => some { outcomes, rosters, heads := [position], finish }
  | some (.advance outcome updated next) => do
      let sweep ← of? bytes updated next
      return { sweep with outcomes := outcome :: sweep.outcomes, heads := position :: sweep.heads }
termination_by bytes.length - position
decreasing_by exact Move.length_lt_of_advance ‹_›

section Steps

variable {bytes : List UInt8} {rosters : Rosters} {position : Nat}

theorem of?_stop {outcomes : List Outcome} {finish : Nat}
    (moved : Move.of? bytes rosters position = some (.stop outcomes finish)) :
    of? bytes rosters position = some { outcomes, rosters, heads := [position], finish } := by
  rw [of?]
  split <;> simp_all

theorem of?_advance {outcome : Outcome} {updated : Rosters} {next : Nat} {sweep : Sweep}
    (moved : Move.of? bytes rosters position = some (.advance outcome updated next))
    (later : of? bytes updated next = some sweep) :
    of? bytes rosters position = some { sweep with
      outcomes := outcome :: sweep.outcomes, heads := position :: sweep.heads } := by
  rw [of?]
  split <;> simp_all

end Steps

structure IsOrderly (sweep : Sweep) (start size : Nat) : Prop where
  starts : start ∈ sweep.heads
  start_le : ∀ head ∈ sweep.heads, start ≤ head
  increasing : sweep.heads.Pairwise (· < ·)
  le_finish : ∀ head ∈ sweep.heads, head ≤ sweep.finish
  finish_le : sweep.finish ≤ size

namespace IsOrderly

variable {start next finish size : Nat}

theorem stop {outcomes : List Outcome} {rosters : Rosters} (further : start ≤ finish)
    (inside : finish ≤ size) :
    IsOrderly { outcomes, rosters, heads := [start], finish } start size where
  starts := List.mem_singleton_self start
  start_le := by simp
  increasing := List.pairwise_singleton _ _
  le_finish := by simpa using further
  finish_le := inside

theorem advance {sweep : Sweep} (orderly : sweep.IsOrderly next size) (further : start < next)
    (outcomes : List Outcome) :
    IsOrderly { sweep with outcomes, heads := start :: sweep.heads } start size := by
  have behind : ∀ head ∈ sweep.heads, start < head := by
    intro head member
    exact Nat.lt_of_lt_of_le further (orderly.start_le head member)
  refine ⟨List.mem_cons_self, ?_, ?_, ?_, orderly.finish_le⟩
  · rw [List.forall_mem_cons]
    exact ⟨Nat.le_refl start, fun head member => Nat.le_of_lt (behind head member)⟩
  · rw [List.pairwise_cons]
    exact ⟨behind, orderly.increasing⟩
  · rw [List.forall_mem_cons]
    have started := orderly.le_finish next orderly.starts
    exact ⟨Nat.le_trans (Nat.le_of_lt further) started, orderly.le_finish⟩

end IsOrderly

private theorem exists_of? (rosters : Rosters) (before remaining : List UInt8) :
    ∃ sweep, of? (before ++ remaining) rosters before.length = some sweep ∧
      sweep.IsOrderly before.length (before ++ remaining).length ∧
      Decoder.scan rosters remaining = (sweep.outcomes,
        { carry := (before ++ remaining).drop sweep.finish, rosters := sweep.rosters }) := by
  rcases Move.exists_leads rosters before remaining with ⟨move, moved, leads⟩
  cases leads with
  | @stop outcomes passed kept split further scanned =>
      refine ⟨_, of?_stop moved, .stop further (by simp [split]), ?_⟩
      rw [scanned, split, List.drop_left]
  | @advance outcome updated passed rest split further scanned =>
      rcases exists_of? updated passed rest with ⟨sweep, found, orderly, later⟩
      rw [← split] at found orderly later
      refine ⟨_, of?_advance moved found, orderly.advance further _, ?_⟩
      rw [scanned, later]
termination_by remaining.length
decreasing_by
  -- More bytes have been passed, and so fewer remain.
  have total := congrArg List.length split
  rw [List.length_append, List.length_append] at total
  omega

end Sweep

/-! ## Calls -/

namespace Decoder

def feedByPosition (decoder : Decoder) (buffer : List UInt8) (length : Nat) :
    Option (Except FeedError (List Outcome × Decoder)) :=
  if buffer.length < length then some (.error (.lengthOutOfBounds length buffer.length))
  else do
    let taken ← slice? buffer 0 length
    let bytes := decoder.carry ++ taken
    let sweep ← Sweep.of? bytes decoder.rosters 0
    let kept ← sliceFrom? bytes sweep.finish
    return .ok (sweep.outcomes, { carry := kept, rosters := sweep.rosters })

/-- Every position that decoding looks up is in range, whatever the decoder carries and
whatever comes in, and what is decoded is the same. The positions of the loop increase,
and none is beyond the bytes. -/
theorem feedByPosition_eq (decoder : Decoder) (buffer : List UInt8) (length : Nat) :
    decoder.feedByPosition buffer length = some (decoder.feed buffer length) ∧
      ∃ sweep,
        Sweep.of? (decoder.carry ++ buffer.take length) decoder.rosters 0 = some sweep ∧
        sweep.IsOrderly 0 (decoder.carry ++ buffer.take length).length := by
  rcases Sweep.exists_of? decoder.rosters [] (decoder.carry ++ buffer.take length) with
    ⟨sweep, found, orderly, scanned⟩
  rw [List.nil_append, List.length_nil] at found orderly
  rw [List.nil_append] at scanned
  refine ⟨?_, sweep, found, orderly⟩
  rw [feedByPosition, feed]
  by_cases outside : buffer.length < length
  · rw [if_pos outside, if_pos outside]
  · rw [if_neg outside, if_neg outside, decode, scanned, slice?_zero (Nat.le_of_not_lt outside)]
    have kept := sliceFrom?_of_le orderly.finish_le
    simp only [Option.bind_eq_bind, Option.bind_some, found, kept]
    rfl

end Decoder

end ReceiverLog
