import ReceiverLog.Session.Reader

namespace ReceiverLog

/-! The fix as what was told last. Of every field it holds the value of the last sentence
that carried one, whatever stood between, and a value that stands for none if no sentence
did. What other kinds of sentence tell has no part in it. -/

/-! ## What a sentence carries -/

namespace Sentence

def latitude? : Sentence → Option Float
  | .fixData data => data.latitude
  | .minimumData data => data.latitude
  | _ => none

def longitude? : Sentence → Option Float
  | .fixData data => data.longitude
  | .minimumData data => data.longitude
  | _ => none

def altitude? : Sentence → Option Float
  | .fixData data => data.altitude
  | _ => none

/-- Metres per second, from knots. -/
def speed? : Sentence → Option Float
  | .minimumData data => data.speedKnots.map (· * 0.514)
  | _ => none

def direction? : Sentence → Option Float
  | .minimumData data => data.track
  | _ => none

def accuracy? : Sentence → Option Float
  | .fixData data => data.horizontalDilution
  | _ => none

end Sentence

def lastTold (value? : Sentence → Option Float) (told : List Sentence) : Option Float :=
  (told.filterMap value?).getLast?

theorem lastTold_concat (value? : Sentence → Option Float) (told : List Sentence)
    (sentence : Sentence) :
    lastTold value? (told ++ [sentence]) = (value? sentence).or (lastTold value? told) := by
  rw [lastTold, List.filterMap_append, List.getLast?_append]
  cases carried : value? sentence <;> simp [carried, lastTold]

namespace Fix

def ofTold (told : List Sentence) : Fix where
  latitude := (lastTold Sentence.latitude? told).getD 0.0
  longitude := (lastTold Sentence.longitude? told).getD 0.0
  altitude := (lastTold Sentence.altitude? told).getD (-1.0)
  speed := (lastTold Sentence.speed? told).getD (-1.0)
  direction := (lastTold Sentence.direction? told).getD (-1.0)
  accuracy := (lastTold Sentence.accuracy? told).getD (-1.0)

/-- A fix behind sentences. A field that none of them carries stays as it was. -/
def behind (start : Fix) (told : List Sentence) : Fix where
  latitude := (lastTold Sentence.latitude? told).getD start.latitude
  longitude := (lastTold Sentence.longitude? told).getD start.longitude
  altitude := (lastTold Sentence.altitude? told).getD start.altitude
  speed := (lastTold Sentence.speed? told).getD start.speed
  direction := (lastTold Sentence.direction? told).getD start.direction
  accuracy := (lastTold Sentence.accuracy? told).getD start.accuracy

theorem unknown_behind (told : List Sentence) : unknown.behind told = ofTold told :=
  rfl

/-- One more sentence replaces exactly the fields that it carries. -/
theorem merge_behind (start : Fix) (told : List Sentence) (sentence : Sentence) :
    (start.behind told).merge sentence = start.behind (told ++ [sentence]) := by
  simp only [behind, lastTold_concat, Option.getD_or]
  cases sentence with
  | fixData data => rfl
  | minimumData data => rfl
  | _ => rfl

def applyAll (fix : Fix) : List Sentence → Fix × List (Option Fix)
  | [] => (fix, [])
  | sentence :: rest =>
      let (merged, report) := fix.apply sentence
      let (final, reports) := applyAll merged rest
      (final, report :: reports)

/-- What is reported of a sentence that comes behind others: the whole fix of fix data
and of minimum data, and nothing of all else. -/
def reportBehind (before : List Sentence) (sentence : Sentence) : Option Fix :=
  match sentence with
  | .fixData _ | .minimumData _ => some (ofTold (before ++ [sentence]))
  | _ => none

theorem apply_ofTold (before : List Sentence) (sentence : Sentence) :
    (ofTold before).apply sentence =
      (ofTold (before ++ [sentence]), reportBehind before sentence) := by
  rw [apply, ← unknown_behind, merge_behind, unknown_behind]
  cases sentence <;> rfl

theorem applyAll_append (fix : Fix) (first second : List Sentence) :
    fix.applyAll (first ++ second) =
      (((fix.applyAll first).1.applyAll second).1,
        (fix.applyAll first).2 ++ ((fix.applyAll first).1.applyAll second).2) := by
  induction first generalizing fix with
  | nil => rfl
  | cons sentence first induction => simp only [List.cons_append, applyAll, induction]

theorem length_applyAll (fix : Fix) (told : List Sentence) :
    (fix.applyAll told).2.length = told.length := by
  induction told generalizing fix with
  | nil => rfl
  | cons sentence told induction =>
      rw [applyAll, List.length_cons, List.length_cons, induction]

theorem applyAll_behind (start : Fix) (before told : List Sentence) :
    ((start.behind before).applyAll told).1 = start.behind (before ++ told) := by
  induction told generalizing before with
  | nil => rw [applyAll, List.append_nil]
  | cons sentence told induction =>
      rw [applyAll, apply]
      dsimp only
      rw [merge_behind, induction, ← List.append_cons]

/-- Behind a clearing nothing is left of what was told before it: a field that no sentence
has carried since is zero, where it would be unknown in a new session. -/
theorem applyAll_cleared (told : List Sentence) :
    (cleared.applyAll told).1 =
      { latitude := (lastTold Sentence.latitude? told).getD 0.0
        longitude := (lastTold Sentence.longitude? told).getD 0.0
        altitude := (lastTold Sentence.altitude? told).getD 0.0
        speed := (lastTold Sentence.speed? told).getD 0.0
        direction := (lastTold Sentence.direction? told).getD 0.0
        accuracy := (lastTold Sentence.accuracy? told).getD 0.0 } :=
  applyAll_behind cleared [] told

theorem reports_getElem? (before : List Sentence) (sentence : Sentence) (after : List Sentence) :
    (unknown.applyAll (before ++ sentence :: after)).2[before.length]? =
      some (reportBehind before sentence) := by
  have told : (unknown.applyAll before).1 = ofTold before := applyAll_behind unknown [] before
  rw [applyAll_append, told, ← length_applyAll unknown before, List.getElem?_append_right
    (Nat.le_refl _), Nat.sub_self, applyAll, apply_ofTold]
  rfl

theorem reports_filter (fix : Fix) (told : List Sentence) :
    (fix.applyAll (told.filter (· matches .fixData _ | .minimumData _))).2.filterMap id =
      (fix.applyAll told).2.filterMap id := by
  induction told generalizing fix with
  | nil => rfl
  | cons sentence told induction =>
      cases sentence with
      | fixData data => exact congrArg (_ :: ·) (induction _)
      | minimumData data => exact congrArg (_ :: ·) (induction _)
      | _ => exact induction fix

end Fix

/-! ## What a session tells -/

def Outcome.told? : Outcome → Option Sentence
  | .malformed _ => none
  | .sentence told _ => some told

def Event.located? : Event → Option Location
  | .location located => some located
  | _ => none

theorem Reader.hear_applyAll (now : Int) (fix : Fix) (outcomes : List Outcome) :
    let applied := fix.applyAll (outcomes.filterMap Outcome.told?)
    (hear now fix outcomes).1 = applied.1 ∧
      (hear now fix outcomes).2.1.flatten.filterMap Event.located? =
        (applied.2.filterMap id).map ({ fix := ·, timestamp := now }) := by
  induction outcomes generalizing fix with
  | nil => exact ⟨rfl, rfl⟩
  | cons outcome outcomes induction =>
      cases outcome with
      | malformed reason => exact induction fix
      | sentence sentence raw =>
          rcases induction (fix.apply sentence).1 with ⟨merged, located⟩
          refine ⟨merged, ?_⟩
          rw [hear, List.flatten_cons, List.filterMap_append, located]
          cases sentence <;> rfl

namespace Fix

/-- After any sentences, each field of a fix that began as unknown is the last one told.
The whole fix is reported behind fix data and minimum data, and of nothing else; so all
other sentences can be left out of what is reported, and of the locations of a session. -/
theorem applyAll_unknown (told : List Sentence) :
    let applied := unknown.applyAll told
    applied.1 = ofTold told ∧
      applied.2.length = told.length ∧
      (∀ before sentence after, told = before ++ sentence :: after →
        applied.2[before.length]? = some (reportBehind before sentence)) ∧
      (unknown.applyAll (told.filter (· matches .fixData _ | .minimumData _))).2.filterMap id =
        applied.2.filterMap id ∧
      ∀ now outcomes, outcomes.filterMap Outcome.told? = told →
        (Reader.hear now unknown outcomes).2.1.flatten.filterMap Event.located? =
          (applied.2.filterMap id).map ({ fix := ·, timestamp := now }) := by
  refine ⟨applyAll_behind unknown [] told, length_applyAll unknown told, ?_,
    reports_filter unknown told, ?_⟩
  · rintro before sentence after rfl
    exact reports_getElem? before sentence after
  · rintro now outcomes rfl
    exact (Reader.hear_applyAll now unknown outcomes).2

end Fix

end ReceiverLog
