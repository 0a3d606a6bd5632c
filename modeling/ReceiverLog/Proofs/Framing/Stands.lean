import Mathlib.Data.List.TakeWhile
import ReceiverLog.Framing

namespace ReceiverLog

/-! What stands at the first start marker of a stretch of bytes, told from the
bytes as they are written: which of them are passed over, which are the body,
and what comes behind it. `Framing.of` finds the same by searching. -/

def IsBody (bytes : List UInt8) : Prop :=
  ∀ byte ∈ bytes, isMarker byte = false

instance (bytes : List UInt8) : Decidable (IsBody bytes) :=
  inferInstanceAs (Decidable (∀ byte ∈ bytes, isMarker byte = false))

theorem isMarker_startMarker : isMarker startMarker = true := by decide

theorem isMarker_star : isMarker star = true := by decide

theorem star_ne_startMarker : star ≠ startMarker := by decide

theorem isMarker_iff (byte : UInt8) :
    isMarker byte = true ↔ byte = startMarker ∨ byte = star := by
  simp [isMarker]

namespace IsBody

theorem nil : IsBody [] := by
  intro byte member
  cases member

theorem append {left right : List UInt8} (leftBody : IsBody left) (rightBody : IsBody right) :
    IsBody (left ++ right) := by
  intro byte member
  rcases List.mem_append.mp member with member | member
  · exact leftBody byte member
  · exact rightBody byte member

theorem startMarker_notMem {body : List UInt8} (isBody : IsBody body) :
    startMarker ∉ body := by
  intro member
  have notMarker := isBody startMarker member
  rw [isMarker_startMarker] at notMarker
  cases notMarker

end IsBody

theorem exists_isBody (bytes : List UInt8) :
    ∃ body rest, bytes = body ++ rest ∧ IsBody body ∧
      (rest = [] ∨ ∃ marker later, rest = marker :: later ∧ isMarker marker = true) := by
  induction bytes with
  | nil => exact ⟨[], [], rfl, IsBody.nil, .inl rfl⟩
  | cons byte bytes induction =>
      cases marked : isMarker byte with
      | true => exact ⟨[], byte :: bytes, rfl, IsBody.nil, .inr ⟨byte, bytes, rfl, marked⟩⟩
      | false =>
          rcases induction with ⟨body, rest, rfl, isBody, behind⟩
          refine ⟨byte :: body, rest, rfl, ?_, behind⟩
          intro other member
          rcases List.mem_cons.mp member with rfl | member
          · exact marked
          · exact isBody other member

theorem exists_quiet (bytes : List UInt8) :
    startMarker ∉ bytes ∨
      ∃ quiet rest, bytes = quiet ++ startMarker :: rest ∧ startMarker ∉ quiet := by
  by_cases member : startMarker ∈ bytes
  · exact .inr (List.eq_append_cons_of_mem member)
  · exact .inl member

namespace Framing

inductive Stands : List UInt8 → Framing → Prop
  | silent {bytes : List UInt8} : startMarker ∉ bytes → Stands bytes .silent
  | openBody {quiet body : List UInt8} :
      startMarker ∉ quiet → IsBody body → body.length ≤ longestBody →
      Stands (quiet ++ startMarker :: body) (.undecided (startMarker :: body))
  | openDigits {quiet body digits : List UInt8} :
      startMarker ∉ quiet → IsBody body → body.length ≤ longestBody → digits.length < 2 →
      Stands (quiet ++ startMarker :: (body ++ star :: digits))
        (.undecided (startMarker :: (body ++ star :: digits)))
  | truncated {quiet body : List UInt8} (rest : List UInt8) :
      startMarker ∉ quiet → IsBody body →
      Stands (quiet ++ startMarker :: (body ++ startMarker :: rest))
        (.broken .truncated (startMarker :: rest))
  | overlong {quiet body : List UInt8} :
      startMarker ∉ quiet → IsBody body → longestBody < body.length →
      Stands (quiet ++ startMarker :: body) (.broken .tooLong [])
  | overlongStar {quiet body : List UInt8} (rest : List UInt8) :
      startMarker ∉ quiet → IsBody body → longestBody < body.length →
      Stands (quiet ++ startMarker :: (body ++ star :: rest)) (.broken .tooLong rest)
  | complete {quiet body : List UInt8} (first second : UInt8) (rest : List UInt8) :
      startMarker ∉ quiet → IsBody body → body.length ≤ longestBody →
      Stands (quiet ++ startMarker :: (body ++ star :: first :: second :: rest))
        (.complete { body, first, second } rest)

theorem of_quiet {bytes : List UInt8} (quiet : startMarker ∉ bytes) : of bytes = .silent := by
  have passed : bytes.dropWhile (· != startMarker) = [] := by
    apply List.dropWhile_eq_nil_iff.mpr
    intro byte member
    have different : byte ≠ startMarker := fun equal => quiet (equal ▸ member)
    simpa using different
  rw [of, passed]

theorem of_quiet_startMarker {quiet : List UInt8} (isQuiet : startMarker ∉ quiet)
    (rest : List UInt8) : of (quiet ++ startMarker :: rest) = afterStart rest := by
  have passed : ∀ byte ∈ quiet, (byte != startMarker) = true := by
    intro byte member
    have different : byte ≠ startMarker := fun equal => isQuiet (equal ▸ member)
    simpa using different
  have reached : (quiet ++ startMarker :: rest).dropWhile (· != startMarker) =
      startMarker :: rest := by
    rw [List.dropWhile_append_of_pos passed]
    simp
  rw [of, reached]

theorem of_quiet_append {quiet : List UInt8} (isQuiet : startMarker ∉ quiet)
    (bytes : List UInt8) : of (quiet ++ bytes) = of bytes := by
  rcases exists_quiet bytes with silent | ⟨others, rest, rfl, othersQuiet⟩
  · have both : startMarker ∉ quiet ++ bytes := by
      simp [isQuiet, silent]
    rw [of_quiet both, of_quiet silent]
  · have both : startMarker ∉ quiet ++ others := by
      simp [isQuiet, othersQuiet]
    rw [← List.append_assoc, of_quiet_startMarker both, of_quiet_startMarker othersQuiet]

theorem afterStart_body {body : List UInt8} (isBody : IsBody body) :
    afterStart body = judge body [] := by
  have inside : ∀ byte ∈ body, (!isMarker byte) = true := by
    intro byte member
    simp [isBody byte member]
  have taken : body.takeWhile (!isMarker ·) = body :=
    List.takeWhile_eq_self_iff.mpr inside
  have dropped : body.dropWhile (!isMarker ·) = [] :=
    List.dropWhile_eq_nil_iff.mpr inside
  rw [afterStart, taken, dropped]

theorem afterStart_marker {body rest : List UInt8} {marker : UInt8} (isBody : IsBody body)
    (marked : isMarker marker = true) :
    afterStart (body ++ marker :: rest) = judge body (marker :: rest) := by
  have inside : ∀ byte ∈ body, (!isMarker byte) = true := by
    intro byte member
    simp [isBody byte member]
  rw [afterStart, List.takeWhile_append_of_pos inside, List.dropWhile_append_of_pos inside]
  simp [marked]

private theorem judge_nil_short {body : List UInt8} (short : body.length ≤ longestBody) :
    judge body [] = .undecided (startMarker :: body) :=
  if_neg (Nat.not_lt.mpr short)

private theorem judge_nil_long {body : List UInt8} (long : longestBody < body.length) :
    judge body [] = .broken .tooLong [] :=
  if_pos long

private theorem judge_startMarker (body rest : List UInt8) :
    judge body (startMarker :: rest) = .broken .truncated (startMarker :: rest) := by
  simp only [judge, if_true]

private theorem judge_star_long {body : List UInt8} (long : longestBody < body.length)
    (rest : List UInt8) : judge body (star :: rest) = .broken .tooLong rest := by
  simp only [judge, if_neg star_ne_startMarker, if_pos long]

private theorem judge_star_digits {body : List UInt8} (short : body.length ≤ longestBody)
    (first second : UInt8) (rest : List UInt8) :
    judge body (star :: first :: second :: rest) = .complete { body, first, second } rest := by
  simp only [judge, if_neg star_ne_startMarker, if_neg (Nat.not_lt.mpr short)]

private theorem judge_star_few {body digits : List UInt8} (short : body.length ≤ longestBody)
    (few : digits.length < 2) :
    judge body (star :: digits) = .undecided (startMarker :: (body ++ star :: digits)) := by
  simp only [judge, if_neg star_ne_startMarker, if_neg (Nat.not_lt.mpr short)]
  match digits, few with
  | [], _ => rfl
  | [_], _ => rfl

theorem Stands.of_eq {bytes : List UInt8} {framing : Framing}
    (stands : Stands bytes framing) : of bytes = framing := by
  cases stands with
  | silent quiet => exact of_quiet quiet
  | openBody quiet isBody short =>
      rw [of_quiet_startMarker quiet, afterStart_body isBody, judge_nil_short short]
  | openDigits quiet isBody short few =>
      rw [of_quiet_startMarker quiet, afterStart_marker isBody isMarker_star,
        judge_star_few short few]
  | truncated rest quiet isBody =>
      rw [of_quiet_startMarker quiet, afterStart_marker isBody isMarker_startMarker,
        judge_startMarker]
  | overlong quiet isBody long =>
      rw [of_quiet_startMarker quiet, afterStart_body isBody, judge_nil_long long]
  | overlongStar rest quiet isBody long =>
      rw [of_quiet_startMarker quiet, afterStart_marker isBody isMarker_star,
        judge_star_long long]
  | complete first second rest quiet isBody short =>
      rw [of_quiet_startMarker quiet, afterStart_marker isBody isMarker_star,
        judge_star_digits short]

theorem exists_stands (bytes : List UInt8) : ∃ framing, Stands bytes framing := by
  rcases exists_quiet bytes with silent | ⟨quiet, rest, rfl, isQuiet⟩
  · exact ⟨_, .silent silent⟩
  rcases exists_isBody rest with ⟨body, behind, rfl, isBody, rfl | ⟨marker, later, rfl, marked⟩⟩
  · rw [List.append_nil]
    by_cases short : body.length ≤ longestBody
    · exact ⟨_, .openBody isQuiet isBody short⟩
    · exact ⟨_, .overlong isQuiet isBody (Nat.lt_of_not_le short)⟩
  · rcases (isMarker_iff marker).mp marked with rfl | rfl
    · exact ⟨_, .truncated later isQuiet isBody⟩
    · by_cases short : body.length ≤ longestBody
      · match later with
        | [] => exact ⟨_, .openDigits isQuiet isBody short Nat.zero_lt_two⟩
        | [_] => exact ⟨_, .openDigits isQuiet isBody short Nat.one_lt_two⟩
        | first :: second :: rest => exact ⟨_, .complete first second rest isQuiet isBody short⟩
      · exact ⟨_, .overlongStar later isQuiet isBody (Nat.lt_of_not_le short)⟩

private theorem stands_of (bytes : List UInt8) : Stands bytes (of bytes) := by
  rcases exists_stands bytes with ⟨framing, stands⟩
  rw [stands.of_eq]
  exact stands

theorem of_eq_iff {bytes : List UInt8} {framing : Framing} :
    of bytes = framing ↔ Stands bytes framing :=
  ⟨fun equal => equal ▸ stands_of bytes, Stands.of_eq⟩

end Framing

end ReceiverLog
