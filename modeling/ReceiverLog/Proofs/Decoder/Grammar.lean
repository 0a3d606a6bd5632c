import Mathlib.Data.List.Infix
import ReceiverLog.Proofs.Decoder.Chunks
import ReceiverLog.Proofs.Except

namespace ReceiverLog

/-! The grammar of a stream of ASCII bytes. Every start marker tells one
outcome, which follows from the bytes up to the next marker and the two behind a
star; only those of a last fragment that is still open tell none, and from the
first of them on the stream is carried over. So no start marker is passed over,
whatever was broken before it, and the frames that are accepted are all the
valid ones there are. -/

/-! ## Start markers -/

/-- The stretches of a stream that begin with a start marker, from left to
right. Each goes on to the end of the stream. -/
def starts (stream : List UInt8) : List (List UInt8) :=
  stream.tails.filter (·.head? == some startMarker)

theorem mem_starts {stream start : List UInt8} :
    start ∈ starts stream ↔ start <:+ stream ∧ start.head? = some startMarker := by
  simp [starts]

theorem starts_nil : starts [] = [] := rfl

theorem starts_cons_startMarker (rest : List UInt8) :
    starts (startMarker :: rest) = (startMarker :: rest) :: starts rest := by
  simp [starts]

theorem starts_cons_of_ne {byte : UInt8} (different : byte ≠ startMarker) (rest : List UInt8) :
    starts (byte :: rest) = starts rest := by
  simp [starts, different]

theorem starts_quiet_append {quiet : List UInt8} (isQuiet : startMarker ∉ quiet)
    (rest : List UInt8) : starts (quiet ++ rest) = starts rest := by
  induction quiet with
  | nil => rfl
  | cons byte quiet induction =>
      rw [List.mem_cons, not_or] at isQuiet
      rw [List.cons_append, starts_cons_of_ne (Ne.symm isQuiet.1), induction isQuiet.2]

theorem starts_quiet {quiet : List UInt8} (isQuiet : startMarker ∉ quiet) :
    starts quiet = [] := by
  have passed := starts_quiet_append isQuiet []
  rwa [List.append_nil, starts_nil] at passed

theorem starts_body_star {body : List UInt8} (isBody : IsBody body) (rest : List UInt8) :
    starts (body ++ star :: rest) = starts rest := by
  rw [starts_quiet_append isBody.startMarker_notMem, starts_cons_of_ne star_ne_startMarker]

/-! ## What a start marker tells -/

/-- A start marker with the bytes behind it, and its outcome. Rosters are read
and changed by frames that list satellites, and by nothing else. -/
inductive Tells : Rosters → List UInt8 → Outcome → Rosters → Prop
  | broken {rosters : Rosters} {start rest : List UInt8} {reason : Malformed} :
      Framing.Stands start (.broken reason rest) →
      Tells rosters start (.malformed reason) rosters
  | complete {rosters : Rosters} {start rest : List UInt8} {frame : Frame} :
      Framing.Stands start (.complete frame rest) →
      Tells rosters start (frame.settle rosters rest).1 (frame.settle rosters rest).2.1

/-- A start marker that can only be judged when there are more bytes. -/
def IsOpen (start : List UInt8) : Prop :=
  ∃ fragment, Framing.Stands start (.undecided fragment)

inductive TellAll : Rosters → List (List UInt8) → List Outcome → Rosters → Prop
  | nil {rosters : Rosters} : TellAll rosters [] [] rosters
  | cons {rosters updated final : Rosters} {start : List UInt8} {starts : List (List UInt8)}
      {outcome : Outcome} {outcomes : List Outcome} :
      Tells rosters start outcome updated → TellAll updated starts outcomes final →
      TellAll rosters (start :: starts) (outcome :: outcomes) final

theorem Tells.unique {rosters updated otherUpdated : Rosters} {start : List UInt8}
    {outcome other : Outcome} (tells : Tells rosters start outcome updated)
    (otherTells : Tells rosters start other otherUpdated) :
    other = outcome ∧ otherUpdated = updated := by
  cases tells with
  | broken stands =>
      cases otherTells with
      | broken otherStands =>
          cases stands.of_eq.symm.trans otherStands.of_eq
          exact ⟨rfl, rfl⟩
      | complete otherStands => cases stands.of_eq.symm.trans otherStands.of_eq
  | complete stands =>
      cases otherTells with
      | broken otherStands => cases stands.of_eq.symm.trans otherStands.of_eq
      | complete otherStands =>
          cases stands.of_eq.symm.trans otherStands.of_eq
          exact ⟨rfl, rfl⟩

theorem TellAll.unique {rosters final otherFinal : Rosters} {starts : List (List UInt8)}
    {outcomes others : List Outcome} (tell : TellAll rosters starts outcomes final)
    (otherTell : TellAll rosters starts others otherFinal) :
    others = outcomes ∧ otherFinal = final := by
  induction tell generalizing others otherFinal with
  | nil =>
      cases otherTell
      exact ⟨rfl, rfl⟩
  | cons tells _ induction =>
      cases otherTell with
      | cons otherTells otherRest =>
          rcases tells.unique otherTells with ⟨rfl, rfl⟩
          rcases induction otherRest with ⟨rfl, rfl⟩
          exact ⟨rfl, rfl⟩

/-! ## Where the next look begins -/

private theorem checkByte?_startMarker_left (second : Char) :
    Number.checkByte? ['$', second] = none := by
  have noDigit : Number.digit? 16 '$' = none := by decide
  simp [Number.checkByte?, Number.numeral?, Number.digitsFrom, noDigit]

private theorem checkByte?_startMarker_right (first : Char) :
    Number.checkByte? [first, '$'] = none := by
  have noDigit : Number.digit? 16 '$' = none := by decide
  by_cases signed : first = '+'
  · subst signed
    simp [Number.checkByte?, Number.numeral?, Number.digitsFrom, noDigit]
  · cases found : Number.digit? 16 first <;>
      simp [Number.checkByte?, Number.numeral?, Number.digitsFrom, noDigit, signed, found]

theorem ne_startMarker_of_checkByte? {first second value : UInt8}
    (read : Number.checkByte? (Frame.characters [first, second]) = some value) :
    first ≠ startMarker ∧ second ≠ startMarker := by
  constructor
  · rintro rfl
    rw [show Frame.characters [startMarker, second] = ['$', Char.ofNat second.toNat] from rfl,
      checkByte?_startMarker_left] at read
    cases read
  · rintro rfl
    rw [show Frame.characters [first, startMarker] = [Char.ofNat first.toNat, '$'] from rfl,
      checkByte?_startMarker_right] at read
    cases read

private theorem starts_checkDigits {first second value : UInt8}
    (read : Number.checkByte? (Frame.characters [first, second]) = some value)
    (rest : List UInt8) : starts (first :: second :: rest) = starts rest := by
  rcases ne_startMarker_of_checkByte? read with ⟨leftDifferent, rightDifferent⟩
  rw [starts_cons_of_ne leftDifferent, starts_cons_of_ne rightDifferent]

theorem Frame.decode_cases {frame : Frame} (ascii : frame.bytes.all Frame.isAscii = true)
    (rosters : Rosters) :
    (Number.checkByte? (Frame.characters [frame.first, frame.second]) = none ∧
        frame.decode rosters =
          .error (.invalidChecksum (Frame.characters [frame.first, frame.second]))) ∨
      ∃ expected,
        Number.checkByte? (Frame.characters [frame.first, frame.second]) = some expected ∧
        ((expected ≠ checksum frame.body ∧
            frame.decode rosters = .error (.checksumMismatch expected (checksum frame.body))) ∨
          (expected = checksum frame.body ∧
            frame.decode rosters = Sentence.read rosters (Frame.characters frame.body))) := by
  have notAscii : (!frame.bytes.all Frame.isAscii) = false := by simp [ascii]
  cases read : Number.checkByte? (Frame.characters [frame.first, frame.second]) with
  | none =>
      left
      exact ⟨rfl, by simp [Frame.decode, notAscii, read]⟩
  | some expected =>
      right
      refine ⟨expected, rfl, ?_⟩
      by_cases equal : expected = checksum frame.body
      · right
        exact ⟨equal, by simp [Frame.decode, notAscii, read, equal]⟩
      · left
        exact ⟨equal, by simp [Frame.decode, notAscii, read, equal]⟩

theorem Frame.rest_settle (frame : Frame) (rosters : Rosters) (rest : List UInt8) :
    (frame.settle rosters rest).2.2 = rest ∨
      (frame.settle rosters rest).2.2 = frame.first :: frame.second :: rest := by
  rw [settle]
  cases frame.decode rosters with
  | ok result => exact .inl rfl
  | error reason =>
      cases reason with
      | invalidChecksum digits => exact .inr rfl
      | _ => exact .inl rfl

/-- Whatever becomes of a frame, the next look meets the same start markers as
one that would begin at the check digits. -/
theorem starts_settle {frame : Frame} (ascii : frame.bytes.all Frame.isAscii = true)
    (rosters : Rosters) (rest : List UInt8) :
    starts (frame.settle rosters rest).2.2 = starts (frame.first :: frame.second :: rest) := by
  rcases Frame.decode_cases ascii rosters with ⟨_, invalid⟩ | ⟨expected, read, _⟩
  · rw [Frame.settle, invalid]
    rfl
  · rcases frame.rest_settle rosters rest with equal | equal
    · rw [equal, starts_checkDigits read]
    · rw [equal]

namespace Framing.Stands

theorem starts_broken {bytes rest : List UInt8} {reason : Malformed}
    (stands : Stands bytes (.broken reason rest)) :
    ∃ start, starts bytes = start :: starts rest ∧ Stands start (.broken reason rest) := by
  cases stands with
  | @truncated quiet body rest isQuiet isBody =>
      refine ⟨startMarker :: (body ++ startMarker :: rest), ?_,
        .truncated rest List.not_mem_nil isBody⟩
      rw [starts_quiet_append isQuiet, starts_cons_startMarker,
        starts_quiet_append isBody.startMarker_notMem]
  | @overlong quiet body isQuiet isBody long =>
      refine ⟨startMarker :: body, ?_, .overlong List.not_mem_nil isBody long⟩
      rw [starts_quiet_append isQuiet, starts_cons_startMarker,
        starts_quiet isBody.startMarker_notMem, starts_nil]
  | @overlongStar quiet body rest isQuiet isBody long =>
      refine ⟨startMarker :: (body ++ star :: rest), ?_,
        .overlongStar rest List.not_mem_nil isBody long⟩
      rw [starts_quiet_append isQuiet, starts_cons_startMarker, starts_body_star isBody]

theorem starts_complete {bytes rest : List UInt8} {frame : Frame}
    (stands : Stands bytes (.complete frame rest)) :
    ∃ start, starts bytes = start :: starts (frame.first :: frame.second :: rest) ∧
      Stands start (.complete frame rest) := by
  cases stands with
  | @complete quiet body first second rest isQuiet isBody short =>
      refine ⟨startMarker :: (body ++ star :: first :: second :: rest), ?_,
        .complete first second rest List.not_mem_nil isBody short⟩
      rw [starts_quiet_append isQuiet, starts_cons_startMarker, starts_body_star isBody]

theorem starts_undecided {bytes fragment : List UInt8}
    (stands : Stands bytes (.undecided fragment)) :
    ∃ others, starts bytes = fragment :: others ∧
      ∀ start ∈ fragment :: others, IsOpen start := by
  have isOpen : IsOpen fragment := by
    cases stands with
    | openBody _ isBody short => exact ⟨_, .openBody List.not_mem_nil isBody short⟩
    | openDigits _ isBody short few =>
        exact ⟨_, .openDigits List.not_mem_nil isBody short few⟩
  have lone : IsOpen [startMarker] :=
    ⟨_, .openBody List.not_mem_nil IsBody.nil (Nat.zero_le _)⟩
  cases stands with
  | @openBody quiet body isQuiet isBody short =>
      refine ⟨[], ?_, by simpa using isOpen⟩
      rw [starts_quiet_append isQuiet, starts_cons_startMarker,
        starts_quiet isBody.startMarker_notMem]
  | @openDigits quiet body digits isQuiet isBody short few =>
      refine ⟨starts digits, ?_, ?_⟩
      · rw [starts_quiet_append isQuiet, starts_cons_startMarker, starts_body_star isBody]
      · intro start member
        rcases List.mem_cons.mp member with rfl | member
        · exact isOpen
        · match digits, few with
          | [], _ => cases member
          | [digit], _ =>
              by_cases equal : digit = startMarker
              · subst equal
                rw [starts_cons_startMarker, starts_nil, List.mem_singleton] at member
                exact member ▸ lone
              · rw [starts_cons_of_ne equal, starts_nil] at member
                cases member

theorem suffix_broken {bytes rest : List UInt8} {reason : Malformed}
    (stands : Stands bytes (.broken reason rest)) : rest <:+ bytes := by
  cases stands with
  | @truncated quiet body rest =>
      exact ⟨quiet ++ startMarker :: body, by simp⟩
  | overlong => exact List.nil_suffix
  | @overlongStar quiet body rest =>
      exact ⟨quiet ++ startMarker :: (body ++ [star]), by simp⟩

theorem suffix_complete {bytes rest : List UInt8} {frame : Frame}
    (stands : Stands bytes (.complete frame rest)) : frame.bytes ++ rest <:+ bytes := by
  cases stands with
  | @complete quiet body first second rest => exact ⟨quiet, by simp [Frame.bytes]⟩

end Framing.Stands

/-! ## Streams -/

/-- How the outcomes of a stream and what is carried over follow from its start
markers: those up to some point are decided, and all behind are open. -/
structure Account (rosters : Rosters) (stream : List UInt8) (decoding : List Outcome × Decoder)
    (decided pending : List (List UInt8)) : Prop where
  starts_eq : starts stream = decided ++ pending
  told : TellAll rosters decided decoding.1 decoding.2.rosters
  pending_isOpen : ∀ start ∈ pending, IsOpen start
  carry_eq : decoding.2.carry = pending.headD []

theorem Account.cons {rosters updated : Rosters} {stream rest start : List UInt8}
    {outcome : Outcome} {decoding : List Outcome × Decoder} {decided pending : List (List UInt8)}
    (account : Account updated rest decoding decided pending)
    (tells : Tells rosters start outcome updated)
    (first : starts stream = start :: starts rest) :
    Account rosters stream (outcome :: decoding.1, decoding.2) (start :: decided) pending where
  starts_eq := by rw [first, account.starts_eq, List.cons_append]
  told := .cons tells account.told
  pending_isOpen := account.pending_isOpen
  carry_eq := account.carry_eq

theorem exists_account (rosters : Rosters) (bytes : List UInt8)
    (ascii : ∀ byte ∈ bytes, Frame.isAscii byte = true) :
    ∃ decided pending, Account rosters bytes (Decoder.scan rosters bytes) decided pending := by
  induction rosters, bytes using Decoder.scan_induction with
  | silent rosters bytes silent =>
      cases Framing.of_eq_iff.mp silent with
      | silent isQuiet =>
          rw [Decoder.scan_silent silent]
          exact ⟨[], [], starts_quiet isQuiet, .nil, by simp, rfl⟩
  | undecided rosters bytes fragment undecided =>
      rw [Decoder.scan_undecided undecided]
      rcases (Framing.of_eq_iff.mp undecided).starts_undecided with ⟨others, equal, allOpen⟩
      exact ⟨[], fragment :: others, equal, .nil, allOpen, rfl⟩
  | broken rosters bytes reason rest broken induction =>
      rw [Decoder.scan_broken broken]
      have stands := Framing.of_eq_iff.mp broken
      rcases stands.starts_broken with ⟨start, first, startStands⟩
      rcases induction fun byte member => ascii byte (stands.suffix_broken.subset member) with
        ⟨decided, pending, account⟩
      exact ⟨start :: decided, pending, account.cons (.broken startStands) first⟩
  | complete rosters bytes frame rest complete induction =>
      rw [Decoder.scan_complete complete]
      have stands := Framing.of_eq_iff.mp complete
      have inside := stands.suffix_complete.subset
      have frameAscii : frame.bytes.all Frame.isAscii = true := by
        rw [List.all_eq_true]
        intro byte member
        exact ascii byte (inside (List.mem_append_left rest member))
      have leftAscii : ∀ byte ∈ (frame.settle rosters rest).2.2, Frame.isAscii byte = true := by
        intro byte member
        apply ascii byte (inside _)
        rcases frame.rest_settle rosters rest with equal | equal
        · rw [equal] at member
          exact List.mem_append_right frame.bytes member
        · rw [equal] at member
          simp only [List.mem_cons] at member
          simp only [Frame.bytes, List.mem_append, List.mem_cons]
          tauto
      rcases stands.starts_complete with ⟨start, first, startStands⟩
      rcases induction leftAscii with ⟨decided, pending, account⟩
      refine ⟨start :: decided, pending, account.cons (.complete startStands) ?_⟩
      rw [first, starts_settle frameAscii]

/-! ## Accepted frames -/

theorem SatellitesInView.isOk_read (talker : String) (roster other : Roster)
    (fields : Fields .satellitesInView) :
    (read talker roster fields).isOk = (read talker other fields).isOk := by
  apply isOk_bind_congr
  intro messages
  apply isOk_bind_congr
  intro number
  apply isOk_bind_congr
  intro inView
  apply isOk_bind_congr
  intro listed
  rfl

theorem Sentence.isOk_read (rosters others : Rosters) (body : List Char) :
    (Sentence.read rosters body).isOk = (Sentence.read others body).isOk := by
  cases addressed : Address.read? ((Text.split ',' body).headD []) with
  | none =>
      rw [read_of_none addressed, read_of_none addressed]
      rfl
  | some address =>
      rcases address with ⟨talker, kind⟩
      rw [read_of_some addressed, read_of_some addressed]
      apply isOk_bind_congr
      intro fields
      cases kind with
      | satellitesInView =>
          have same := SatellitesInView.isOk_read talker (rosters.of talker)
            (others.of talker) fields
          exact (isOk_bind_pure _ _).trans (same.trans (isOk_bind_pure _ _).symm)
      | fixData => exact (isOk_bind_pure _ _).trans (isOk_bind_pure _ _).symm
      | activeSatellites => exact (isOk_bind_pure _ _).trans (isOk_bind_pure _ _).symm
      | minimumData => exact (isOk_bind_pure _ _).trans (isOk_bind_pure _ _).symm

/-- A body between two markers, with check digits that match it and fields that
can be read. -/
structure Frame.IsValid (frame : Frame) : Prop where
  isBody : IsBody frame.body
  short : frame.body.length ≤ longestBody
  checked : Number.checkByte? (Frame.characters [frame.first, frame.second]) =
    some (checksum frame.body)
  readable : (Sentence.read [] (Frame.characters frame.body)).isOk = true

theorem Frame.isOk_decode_iff {frame : Frame} (ascii : frame.bytes.all Frame.isAscii = true)
    (rosters : Rosters) :
    (frame.decode rosters).isOk = true ↔
      Number.checkByte? (Frame.characters [frame.first, frame.second]) =
          some (checksum frame.body) ∧
        (Sentence.read [] (Frame.characters frame.body)).isOk = true := by
  rcases Frame.decode_cases ascii rosters with
    ⟨unread, invalid⟩ | ⟨expected, read, ⟨different, mismatch⟩ | ⟨equal, decoded⟩⟩
  · rw [invalid, unread]
    simp [Except.isOk, Except.toBool]
  · rw [mismatch, read]
    simp [different, Except.isOk, Except.toBool]
  · rw [decoded, read, equal, Sentence.isOk_read rosters []]
    simp

def Frame.valid? (start : List UInt8) : Option Frame :=
  match Framing.of start with
  | .complete frame _ => if (frame.decode []).isOk then some frame else none
  | _ => none

theorem Framing.Stands.start_complete {start rest : List UInt8} {frame : Frame}
    (stands : Stands start (.complete frame rest)) (marked : start.head? = some startMarker) :
    start = frame.bytes ++ rest ∧ IsBody frame.body ∧ frame.body.length ≤ longestBody := by
  cases stands with
  | @complete quiet body first second rest isQuiet isBody short =>
      refine ⟨?_, isBody, short⟩
      cases quiet with
      | nil => simp [Frame.bytes]
      | cons byte quiet =>
          rw [List.cons_append, List.head?_cons, Option.some.injEq] at marked
          exact absurd (marked ▸ List.mem_cons_self) isQuiet

theorem Frame.valid?_eq_some_iff {start : List UInt8} {frame : Frame}
    (ascii : ∀ byte ∈ start, Frame.isAscii byte = true)
    (marked : start.head? = some startMarker) :
    valid? start = some frame ↔ ∃ rest, start = frame.bytes ++ rest ∧ frame.IsValid := by
  have frameAscii : ∀ {other : Frame} {rest : List UInt8}, start = other.bytes ++ rest →
      other.bytes.all Frame.isAscii = true := by
    intro other rest equal
    rw [List.all_eq_true]
    intro byte member
    exact ascii byte (equal ▸ List.mem_append_left rest member)
  constructor
  · intro found
    unfold valid? at found
    split at found
    · next other rest complete =>
        split at found
        · next decoded =>
            cases found
            rcases (Framing.of_eq_iff.mp complete).start_complete marked with
              ⟨equal, isBody, short⟩
            rcases (Frame.isOk_decode_iff (frameAscii equal) []).mp decoded with
              ⟨checked, readable⟩
            exact ⟨rest, equal, isBody, short, checked, readable⟩
        · cases found
    · cases found
  · rintro ⟨rest, equal, valid⟩
    have decoded := (Frame.isOk_decode_iff (frameAscii equal) []).mpr
      ⟨valid.checked, valid.readable⟩
    have complete : Framing.of start = .complete frame rest := by
      have stands := Framing.Stands.complete frame.first frame.second rest List.not_mem_nil
        valid.isBody valid.short
      rw [equal]
      simpa [Frame.bytes] using stands.of_eq
    rw [valid?, complete]
    exact if_pos decoded

def Outcome.raw? : Outcome → Option String
  | .sentence _ raw => some raw
  | .malformed _ => none

theorem IsOpen.valid?_eq_none {start : List UInt8} (isOpen : IsOpen start) :
    Frame.valid? start = none := by
  rcases isOpen with ⟨fragment, stands⟩
  rw [Frame.valid?, stands.of_eq]

theorem Tells.raw?_eq {rosters updated : Rosters} {start : List UInt8} {outcome : Outcome}
    (tells : Tells rosters start outcome updated)
    (ascii : ∀ byte ∈ start, Frame.isAscii byte = true) :
    outcome.raw? = (Frame.valid? start).map Frame.text := by
  cases tells with
  | broken stands => rw [Frame.valid?, stands.of_eq]; rfl
  | @complete rest frame stands =>
      have frameAscii : frame.bytes.all Frame.isAscii = true := by
        rw [List.all_eq_true]
        intro byte member
        exact ascii byte (stands.suffix_complete.subset (List.mem_append_left rest member))
      have sameOk : (frame.decode rosters).isOk = (frame.decode []).isOk := by
        rw [Bool.eq_iff_iff, Frame.isOk_decode_iff frameAscii rosters,
          Frame.isOk_decode_iff frameAscii []]
      rw [Frame.valid?, stands.of_eq, Frame.settle]
      dsimp only
      rw [← sameOk]
      cases frame.decode rosters with
      | ok result => rfl
      | error reason => rfl

theorem TellAll.filterMap_raw? {rosters final : Rosters} {decided : List (List UInt8)}
    {outcomes : List Outcome} (tell : TellAll rosters decided outcomes final)
    (ascii : ∀ start ∈ decided, ∀ byte ∈ start, Frame.isAscii byte = true) :
    outcomes.filterMap Outcome.raw? = (decided.filterMap Frame.valid?).map Frame.text := by
  induction tell with
  | nil => rfl
  | @cons _ _ _ start others outcome outcomes tells _ induction =>
      have rest := induction fun other member => ascii other (List.mem_cons_of_mem start member)
      have here := tells.raw?_eq (ascii start List.mem_cons_self)
      rw [List.filterMap_cons, List.filterMap_cons, rest, here]
      cases Frame.valid? start <;> rfl

namespace Decoder

/-- A stream is decoded by its grammar: its start markers account for the
outcomes, which they leave no choice, and the accepted texts are those of all
valid frames in it. -/
def FollowsGrammar (stream : List UInt8) : Prop :=
  ∃ outcomes decoder decided pending,
    fresh.feed stream stream.length = .ok (outcomes, decoder) ∧
    Account [] stream (outcomes, decoder) decided pending ∧
    (∀ others final, TellAll [] decided others final → others = outcomes) ∧
    ∃ recognise : List UInt8 → Option Frame,
      (∀ start ∈ starts stream, ∀ frame, recognise start = some frame ↔
        ∃ rest, start = frame.bytes ++ rest ∧ frame.IsValid) ∧
      outcomes.filterMap Outcome.raw? =
        ((starts stream).filterMap recognise).map Frame.text

theorem followsGrammar_of_ascii {stream : List UInt8}
    (ascii : ∀ byte ∈ stream, Frame.isAscii byte = true) : FollowsGrammar stream := by
  have fed : fresh.feed stream stream.length = .ok (scan [] stream) := by
    rw [feed_accepted (Nat.le_refl _), List.take_length]
    rfl
  rcases exists_account [] stream ascii with ⟨decided, pending, account⟩
  have startAscii : ∀ start ∈ starts stream, ∀ byte ∈ start, Frame.isAscii byte = true := by
    intro start member byte inside
    exact ascii byte ((mem_starts.mp member).1.subset inside)
  refine ⟨_, _, decided, pending, fed, account, ?_, Frame.valid?, ?_, ?_⟩
  · intro others final tell
    exact (account.told.unique tell).1
  · intro start member frame
    exact Frame.valid?_eq_some_iff (startAscii start member) (mem_starts.mp member).2
  · have open? : pending.filterMap Frame.valid? = [] := by
      rw [List.filterMap_eq_nil_iff]
      intro start member
      exact (account.pending_isOpen start member).valid?_eq_none
    have told := account.told.filterMap_raw? fun start member =>
      startAscii start (account.starts_eq ▸ List.mem_append_left pending member)
    rw [told, account.starts_eq, List.filterMap_append, open?, List.append_nil]

/-- A truncated fragment, an unrecognized sentence, digits that are none, and a
start marker in the place of a digit. -/
theorem followsGrammar_mixed :
    let stream : List UInt8 :=
      [120, 36, 71, 80, 36, 65, 42, 52, 49, 36, 66, 42, 122, 122, 36, 67, 42, 36]
    (∀ byte ∈ stream, Frame.isAscii byte = true) ∧ FollowsGrammar stream :=
  ⟨List.all_eq_true.mp rfl, followsGrammar_of_ascii (List.all_eq_true.mp rfl)⟩

end Decoder

end ReceiverLog
