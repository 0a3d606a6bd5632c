import ReceiverLog.Satellite

namespace ReceiverLog

/-! The satellites a talker has listed in the messages of its running
sequence. -/

def rosterCapacity : Nat := 32

abbrev Roster := List Satellite

namespace Roster

def update (roster : Roster) (satellite : Satellite) : Roster :=
  roster.map fun listed => if listed.prn = satellite.prn then satellite else listed

def lists (roster : Roster) (prn : UInt16) : Bool :=
  roster.any (·.prn == prn)

/-- Enter one satellite: a listed one keeps its place, a new one comes last
while there is room. The flag tells that there was none. -/
def enter (roster : Roster) (satellite : Satellite) : Roster × Bool :=
  if roster.lists satellite.prn then (roster.update satellite, false)
  else if roster.length < rosterCapacity then (roster ++ [satellite], false)
  else (roster, true)

def enterAll (roster : Roster) : List Satellite → Roster × Bool
  | [] => (roster, false)
  | satellite :: rest =>
      let (entered, full) := roster.enter satellite
      let (final, overflowed) := enterAll entered rest
      (final, full || overflowed)

end Roster

abbrev Rosters := List (String × Roster)

namespace Rosters

def of : Rosters → String → Roster
  | [], _ => []
  | (name, roster) :: rest, talker => if name = talker then roster else Rosters.of rest talker

def set : Rosters → String → Roster → Rosters
  | [], talker, roster => [(talker, roster)]
  | (name, listed) :: rest, talker, roster =>
      if name = talker then (talker, roster) :: rest
      else (name, listed) :: Rosters.set rest talker roster

theorem of_set (rosters : Rosters) (talker other : String) (roster : Roster) :
    (rosters.set talker roster).of other =
      if talker = other then roster else rosters.of other := by
  induction rosters with
  | nil => rfl
  | cons entry rest induction =>
      obtain ⟨name, listed⟩ := entry
      by_cases equal : name = talker
      · by_cases same : talker = other <;> simp [set, of, equal, same]
      · by_cases same : name = other
        · subst same
          have different : ¬ talker = name := fun reverse => equal reverse.symm
          simp [set, of, equal, different]
        · simp [set, of, equal, same, induction]

end Rosters

end ReceiverLog
