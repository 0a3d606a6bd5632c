import ReceiverLog.Decoder

namespace ReceiverLog

/-! Looking things up by position. A position is checked where it is used: behind the end
of a list, or in the middle of a character, there is nothing to be found, and then there
is no result at all. -/

/-! ## Lists -/

section Lists

variable {α : Type}

def slice? (items : List α) (start stop : Nat) : Option (List α) :=
  if start ≤ stop ∧ stop ≤ items.length then some ((items.drop start).take (stop - start))
  else none

def sliceFrom? (items : List α) (start : Nat) : Option (List α) :=
  slice? items start items.length

def distance? (position before : Nat) : Option Nat :=
  if before ≤ position then some (position - before) else none

theorem slice?_append (before inside after : List α) :
    slice? (before ++ (inside ++ after)) before.length (before.length + inside.length) =
      some inside := by
  have stop : before.length + inside.length ≤ (before ++ (inside ++ after)).length := by
    simp
  rw [slice?, if_pos ⟨Nat.le_add_right _ _, stop⟩, Nat.add_sub_cancel_left, List.drop_left,
    List.take_left]

theorem sliceFrom?_append (before rest : List α) :
    sliceFrom? (before ++ rest) before.length = some rest := by
  have sliced := slice?_append before rest []
  rwa [List.append_nil, ← List.length_append] at sliced

theorem sliceFrom?_append_cons (before rest : List α) (item : α) :
    sliceFrom? (before ++ item :: rest) (before.length + 1) = some rest := by
  have sliced := sliceFrom?_append (before ++ [item]) rest
  rwa [List.append_assoc, List.singleton_append, List.length_append,
    List.length_singleton] at sliced

theorem slice?_zero {items : List α} {stop : Nat} (inside : stop ≤ items.length) :
    slice? items 0 stop = some (items.take stop) :=
  if_pos ⟨Nat.zero_le _, inside⟩

theorem sliceFrom?_of_le {items : List α} {start : Nat} (inside : start ≤ items.length) :
    sliceFrom? items start = some (items.drop start) := by
  have before : (items.take start).length = start := List.length_take_of_le inside
  have sliced := sliceFrom?_append (items.take start) (items.drop start)
  rwa [List.take_append_drop, before] at sliced

theorem distance?_of_le {position before : Nat} (inside : before ≤ position) :
    distance? position before = some (position - before) :=
  if_pos inside

end Lists

/-! ## Texts

A position in a text is a number of bytes, of those that encode the text. -/

namespace Text

def encoded (text : List Char) : List UInt8 :=
  text.flatMap String.utf8EncodeChar

def splitAt? : List Char → Nat → Option (List Char × List Char)
  | text, 0 => some ([], text)
  | [], _ + 1 => none
  | character :: rest, position + 1 => do
      let remaining ← distance? (position + 1) character.utf8Size
      let (before, after) ← splitAt? rest remaining
      return (character :: before, after)

def slice? (text : List Char) (start stop : Nat) : Option (List Char) := do
  let (before, _) ← splitAt? text stop
  let (_, inside) ← splitAt? before start
  return inside

def sliceFrom? (text : List Char) (start : Nat) : Option (List Char) := do
  let (_, after) ← splitAt? text start
  return after

-- The first of these characters takes two bytes.
example : splitAt? ['é', 'a'] 2 = some (['é'], ['a']) ∧ splitAt? ['é', 'a'] 1 = none := by
  decide

def IsAscii (text : List Char) : Prop :=
  ∀ character ∈ text, character.utf8Size = 1

instance (text : List Char) : Decidable (IsAscii text) :=
  inferInstanceAs (Decidable (∀ character ∈ text, character.utf8Size = 1))

namespace IsAscii

variable {text : List Char}

private theorem of_subset {part : List Char} (ascii : IsAscii text) (subset : part ⊆ text) :
    IsAscii part :=
  fun character member => ascii character (subset member)

theorem length_encoded (ascii : IsAscii text) : (encoded text).length = text.length := by
  induction text with
  | nil => rfl
  | cons character rest induction =>
      rw [IsAscii, List.forall_mem_cons] at ascii
      rw [encoded, List.flatMap_cons, List.length_append, String.length_utf8EncodeChar,
        ascii.1, ← encoded, induction ascii.2, List.length_cons, Nat.add_comm]

theorem splitAt?_eq (ascii : IsAscii text) {position : Nat} (inside : position ≤ text.length) :
    splitAt? text position = some (text.take position, text.drop position) := by
  induction text generalizing position with
  | nil =>
      cases Nat.le_zero.mp inside
      rfl
  | cons character rest induction =>
      cases position with
      | zero => rfl
      | succ position =>
          rw [IsAscii, List.forall_mem_cons] at ascii
          have remaining : distance? (position + 1) character.utf8Size = some position := by
            rw [ascii.1]
            exact distance?_of_le (Nat.le_add_left 1 position)
          have split := induction ascii.2 (Nat.le_of_succ_le_succ inside)
          rw [splitAt?, remaining]
          simp [split]

theorem slice?_eq (ascii : IsAscii text) {start stop : Nat} (ordered : start ≤ stop)
    (inside : stop ≤ text.length) :
    slice? text start stop = some ((text.drop start).take (stop - start)) := by
  have before : splitAt? (text.take stop) start = _ :=
    (ascii.of_subset (List.take_subset stop text)).splitAt?_eq (by simp [ordered, inside])
  simp [slice?, ascii.splitAt?_eq inside, before, List.drop_take]

theorem sliceFrom?_eq (ascii : IsAscii text) {start : Nat} (inside : start ≤ text.length) :
    sliceFrom? text start = some (text.drop start) := by
  simp [sliceFrom?, ascii.splitAt?_eq inside]

theorem trim (ascii : IsAscii text) : IsAscii (trim text) := by
  intro character member
  rw [Text.trim, List.mem_reverse] at member
  have reversed := (List.dropWhile_suffix _).subset member
  rw [List.mem_reverse] at reversed
  exact ascii character ((List.dropWhile_suffix _).subset reversed)

theorem of_mem_split (ascii : IsAscii text) {separator : Char} {part : List Char}
    (member : part ∈ split separator text) : IsAscii part := by
  induction text generalizing part with
  | nil =>
      cases List.mem_singleton.mp member
      exact ascii
  | cons character rest induction =>
      have both := List.forall_mem_cons.mp ascii
      have parts : ∀ part ∈ split separator rest, IsAscii part := fun _ => induction both.2
      rw [split] at member
      by_cases separates : character = separator
      · rw [if_pos separates] at member
        rcases List.mem_cons.mp member with rfl | member
        · exact List.forall_mem_nil _
        · exact parts part member
      · rw [if_neg separates] at member
        cases pieces : split separator rest with
        | nil => exact absurd pieces (split_ne_nil separator rest)
        | cons first others =>
            rw [pieces] at member parts
            rcases List.mem_cons.mp member with rfl | member
            · exact List.forall_mem_cons.mpr ⟨both.1, parts first List.mem_cons_self⟩
            · exact parts part (List.mem_cons_of_mem _ member)

end IsAscii

end Text

namespace Frame

variable {bytes : List UInt8}

private theorem utf8Size_ofNat {byte : UInt8} (ascii : isAscii byte = true) :
    (Char.ofNat byte.toNat).utf8Size = 1 ∧
      String.utf8EncodeChar (Char.ofNat byte.toNat) = [byte] := by
  have every : ∀ code : Fin 128, (Char.ofNat code).utf8Size = 1 ∧
      String.utf8EncodeChar (Char.ofNat code) = [UInt8.ofNat code] := by
    decide +kernel
  have bound : byte.toNat < 128 := by
    simpa [isAscii, UInt8.lt_iff_toNat_lt] using ascii
  have result := every ⟨byte.toNat, bound⟩
  rwa [UInt8.ofNat_toNat] at result

theorem isAscii_characters (ascii : bytes.all isAscii = true) :
    Text.IsAscii (characters bytes) := by
  intro character member
  rcases List.mem_map.mp member with ⟨byte, inside, rfl⟩
  exact (utf8Size_ofNat (List.all_eq_true.mp ascii byte inside)).1

theorem encoded_characters (ascii : bytes.all isAscii = true) :
    Text.encoded (characters bytes) = bytes := by
  induction bytes with
  | nil => rfl
  | cons byte rest induction =>
      rw [List.all_cons, Bool.and_eq_true] at ascii
      have rest := induction ascii.2
      rw [Text.encoded, characters, List.flatMap_map] at rest ⊢
      rw [List.flatMap_cons, (utf8Size_ofNat ascii.1).2, rest, List.singleton_append]

end Frame

/-! ## Reading by position -/

/-- Something read by looking up positions. There is no result when one of them is out of
range; a result may be that what was read is malformed. -/
abbrev Lookup : Type → Type :=
  ExceptT Malformed Option

namespace Lookup

variable {α β : Type}

def found (result : Except Malformed α) : Lookup α :=
  ExceptT.mk (some result)

theorem bind_ok (value : α) (next : α → Lookup β) :
    (found (.ok value) >>= next) = next value := rfl

def checked (place : Option α) : Lookup α :=
  ExceptT.lift place

theorem run_found (result : Except Malformed α) : (found result).run = some result := rfl

theorem bind_found {first : Lookup α} {result : Except Malformed α} {next : α → Lookup β}
    {later : α → Except Malformed β} (firstFound : first = found result)
    (nextFound : ∀ value, next value = found (later value)) :
    (first >>= next) = found (result >>= later) := by
  rw [firstFound]
  cases result with
  | error reason => rfl
  | ok value => exact nextFound value

theorem bind_checked {place : Option α} {value : α} (inRange : place = some value)
    (next : α → Lookup β) : (checked place >>= next) = next value := by
  rw [inRange]
  rfl

theorem ite_found {condition : Prop} [Decidable condition] {whenTrue whenFalse : Lookup α}
    {first second : Except Malformed α} (firstFound : whenTrue = found first)
    (secondFound : whenFalse = found second) :
    (if condition then whenTrue else whenFalse) =
      found (if condition then first else second) := by
  rw [firstFound, secondFound, apply_ite found]

theorem mapM_found {γ : Type} {position : γ → α} {lookUp : α → Lookup β}
    {read : γ → Except Malformed β} (same : ∀ item, lookUp (position item) = found (read item))
    (items : List γ) : (items.map position).mapM lookUp = found (items.mapM read) := by
  induction items with
  | nil => rfl
  | cons item rest induction =>
      rw [List.map_cons, List.mapM_cons, List.mapM_cons]
      apply bind_found (same item)
      intro value
      apply bind_found induction
      intro values
      rfl

end Lookup

end ReceiverLog
