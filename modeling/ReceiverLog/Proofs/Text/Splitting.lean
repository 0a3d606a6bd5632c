import Mathlib.Data.List.DropRight
import ReceiverLog.Text.Split

namespace ReceiverLog.Text

/-! Texts between separators. Put together again they are the text, and parts that are put
behind a text are parts behind its own. -/

theorem split_eq_splitOn (separator : Char) (text : List Char) :
    split separator text = text.splitOn separator := by
  induction text with
  | nil => rfl
  | cons character rest induction =>
      rw [split, List.splitOn_cons_eq_if_modifyHead, induction]
      by_cases equal : character = separator
      · simp [equal]
      · rw [if_neg equal, if_neg (by simpa using equal)]
        cases found : rest.splitOn separator with
        | nil => exact absurd found (List.splitOn_ne_nil separator rest)
        | cons first others => rfl

theorem intercalate_split (separator : Char) (text : List Char) :
    [separator].intercalate (split separator text) = text := by
  rw [split_eq_splitOn, List.intercalate_splitOn]

theorem separator_notMem_split (separator : Char) (text : List Char) :
    ∀ part ∈ split separator text, separator ∉ part := by
  induction text with
  | nil => simp [split]
  | cons character rest induction =>
      rw [split]
      split
      · intro part member
        rcases List.mem_cons.mp member with rfl | member
        · exact List.not_mem_nil
        · exact induction part member
      · next different =>
          split
          · next absent => exact absurd absent (split_ne_nil separator rest)
          · next first others equal =>
              intro part member
              rcases List.mem_cons.mp member with rfl | member
              · rw [List.mem_cons, not_or]
                exact ⟨Ne.symm different, induction first (equal ▸ List.mem_cons_self)⟩
              · exact induction part (equal ▸ List.mem_cons_of_mem first member)

theorem split_append (separator : Char) (text more : List Char) :
    split separator (text ++ separator :: more) =
      split separator text ++ split separator more := by
  simp only [split_eq_splitOn, List.splitOn_append_cons_self]

private theorem split_of_notMem {separator : Char} {text : List Char} (absent : separator ∉ text) :
    split separator text = [text] := by
  rw [split_eq_splitOn, List.splitOn_eq_singleton absent]

theorem split_append_flatMap {separator : Char} {parts : List (List Char)}
    (apart : ∀ part ∈ parts, separator ∉ part) (text : List Char) :
    split separator (text ++ parts.flatMap (separator :: ·)) = split separator text ++ parts := by
  induction parts generalizing text with
  | nil => rw [List.flatMap_nil, List.append_nil, List.append_nil]
  | cons part parts induction =>
      rw [List.forall_mem_cons] at apart
      rw [List.flatMap_cons, ← List.append_assoc, induction apart.2, split_append,
        split_of_notMem apart.1, List.append_cons]
      simp

end ReceiverLog.Text
