import Mathlib.Data.List.TakeWhile
import ReceiverLog.Json.Number

namespace ReceiverLog.Json

/-! What number literals are made of, and that an integer is read back from the
literal that is written for it. -/

theorem span_append {belongs : Char → Bool} {text rest : List Char}
    (inside : ∀ character ∈ text, belongs character)
    (ends : ∀ character ∈ rest.head?, ¬ belongs character) :
    (text ++ rest).takeWhile belongs = text ∧ (text ++ rest).dropWhile belongs = rest := by
  rw [List.takeWhile_append_of_pos inside, List.dropWhile_append_of_pos inside]
  cases rest with
  | nil => simp
  | cons head tail => simp [show belongs head = false by simpa using ends]

theorem isNumeric_of_isDigit {character : Char} (digit : isDigit character) :
    isNumeric character := by
  simp [isNumeric, digit]

def IsNumericText (text : List Char) : Prop :=
  ∀ character ∈ text, isNumeric character

namespace IsNumericText

theorem cons {character : Char} {text : List Char} (head : isNumeric character)
    (tail : IsNumericText text) : IsNumericText (character :: text) := by
  simpa [IsNumericText, head] using tail

theorem append {text more : List Char} (first : IsNumericText text)
    (second : IsNumericText more) : IsNumericText (text ++ more) := by
  intro character member
  rcases List.mem_append.mp member with member | member
  · exact first character member
  · exact second character member

theorem of_isDigits {text : List Char} (digits : isDigits text) : IsNumericText text := by
  simp only [isDigits, Bool.and_eq_true, List.all_eq_true] at digits
  exact fun character member => isNumeric_of_isDigit (digits.2 character member)

private theorem of_isExponent {text : List Char} (exponent : isExponent text) :
    IsNumericText text := by
  have letter_numeric {letter : Char} (letter_eq : letter = 'e' ∨ letter = 'E') :
      isNumeric letter := by
    rcases letter_eq with rfl | rfl <;> decide
  unfold isExponent at exponent
  split at exponent
  · simp [IsNumericText]
  all_goals
    simp only [Bool.and_eq_true, Bool.or_eq_true, beq_iff_eq] at exponent
    have digits := of_isDigits exponent.2
    have head := letter_numeric exponent.1
  · exact cons head (cons (by decide) digits)
  · exact cons head (cons (by decide) digits)
  · exact cons head digits

private theorem of_isFraction {text : List Char} (fraction : isFraction text) :
    IsNumericText text := by
  unfold isFraction at fraction
  split at fraction
  · next rest =>
    simp only [Bool.and_eq_true] at fraction
    rw [← List.takeWhile_append_dropWhile (p := isDigit) (l := rest)]
    exact cons (by decide) (append (of_isDigits fraction.1) (of_isExponent fraction.2))
  · exact of_isExponent fraction

private theorem of_isUnsigned {text : List Char} (unsigned : isUnsigned text) :
    IsNumericText text := by
  simp only [isUnsigned, isWhole, Bool.and_eq_true] at unsigned
  rw [← List.takeWhile_append_dropWhile (p := isDigit) (l := text)]
  exact append (of_isDigits unsigned.1.1) (of_isFraction unsigned.2)

theorem of_isLiteral {text : List Char} (literal : isLiteral text) : IsNumericText text := by
  unfold isLiteral at literal
  split at literal
  · exact cons (by decide) (of_isUnsigned literal)
  · exact of_isUnsigned literal

end IsNumericText

/-! ## Integers -/

theorem all_isDigit_toDigits (value : Nat) : (Nat.toDigits 10 value).all isDigit := by
  rw [List.all_eq_true]
  intro character member
  exact Nat.isDigit_of_mem_toDigits (by decide) (by decide) member

theorem head?_toDigits_ne (value : Nat) (positive : 0 < value) :
    (Nat.toDigits 10 value).head? ≠ some '0' := by
  induction value using Nat.strong_induction_on with
  | _ value induction =>
    by_cases single : value < 10
    · rw [Nat.toDigits_of_lt_base single]
      have digits : ∀ value < 10, 0 < value → [Nat.digitChar value].head? ≠ some '0' := by decide
      exact digits value single positive
    · have shorter := induction (value / 10) (by omega) (by omega)
      rw [Nat.toDigits_of_base_le (by decide) (by omega)]
      cases written : Nat.toDigits 10 (value / 10) with
      | nil => exact (Nat.toDigits_ne_nil written).elim
      | cons first rest => simpa [written] using shorter

theorem isWhole_toDigits (value : Nat) : isWhole (Nat.toDigits 10 value) := by
  rcases Nat.eq_zero_or_pos value with rfl | positive
  · decide
  · simp [isWhole, isDigits, all_isDigit_toDigits, head?_toDigits_ne value positive,
      Nat.toDigits_ne_nil]

private theorem value_toDigits (value : Nat) : integer?.value (Nat.toDigits 10 value) = value := by
  have read := Nat.ofDigitChars_toDigits (b := 10) (n := value) (by decide) (by decide)
  simpa only [integer?.value, Nat.ofDigitChars, Nat.mul_comm] using read

private theorem head?_toDigits_ne_sign (value : Nat) (digits : List Char) :
    Nat.toDigits 10 value ≠ '-' :: digits := by
  intro written
  have digit := all_isDigit_toDigits value
  rw [written] at digit
  simp [isDigit] at digit

private theorem integer?_toDigits (value : Nat) :
    integer? (Nat.toDigits 10 value) = some (value : Int) := by
  unfold integer?
  split
  · next written => exact (head?_toDigits_ne_sign _ _ written).elim
  · simp [isWhole_toDigits, value_toDigits]

theorem integer?_integerLiteral (value : Int) : integer? (integerLiteral value) = some value := by
  unfold integerLiteral
  split
  · next negative =>
    have nonzero : Nat.toDigits 10 value.natAbs ≠ ['0'] := by
      intro zero
      exact head?_toDigits_ne value.natAbs (by omega) (by simp [zero])
    simp only [integer?, isWhole_toDigits, bne_iff_ne, ne_eq, nonzero, not_false_eq_true,
      Bool.true_and, if_true, value_toDigits, Option.some.injEq]
    omega
  · rw [integer?_toDigits]
    exact congrArg some (by omega)

private theorem isUnsigned_toDigits (value : Nat) : isUnsigned (Nat.toDigits 10 value) := by
  have digits := all_isDigit_toDigits value
  rw [List.all_eq_true] at digits
  rw [isUnsigned, List.takeWhile_eq_self_iff.mpr digits, List.dropWhile_eq_nil_iff.mpr digits,
    isWhole_toDigits]
  rfl

theorem isLiteral_integerLiteral (value : Int) : isLiteral (integerLiteral value) := by
  unfold integerLiteral
  split
  · exact isUnsigned_toDigits value.natAbs
  · unfold isLiteral
    split
    · next written => exact (head?_toDigits_ne_sign _ _ written).elim
    · exact isUnsigned_toDigits value.natAbs

end ReceiverLog.Json
