import Mathlib.Tactic.Ring
import ReceiverLog.Number.Decimal
import ReceiverLog.Proofs.Json.Literals

namespace ReceiverLog.Number.Decimal

/-! The texts that are decimal numbers: digits with at most one point among or around them
and at most one power of ten behind them, or a word; and a sign before either. There are no
others. -/

def signText : Option Bool → List Char
  | none => []
  | some false => ['+']
  | some true => ['-']

def AreDigits (text : List Char) : Prop :=
  ∀ character ∈ text, isDigit character

inductive WritesPower : List Char → Int → Prop
  | nothing : WritesPower [] 0
  | power {letter : Char} {digits : List Char} (mark : Option Bool)
      (isLetter : letter = 'e' ∨ letter = 'E') (filled : digits ≠ [])
      (areDigits : AreDigits digits) :
      WritesPower (letter :: (signText mark ++ digits))
        (if mark == some true then -(value digits : Int) else value digits)

/-- Digits with at most one point, their value, and how many stand behind the point. -/
inductive WritesDigits : List Char → Nat → Nat → Prop
  | whole {digits : List Char} (filled : digits ≠ []) (areDigits : AreDigits digits) :
      WritesDigits digits (value digits) 0
  | pointed {whole fraction : List Char} (filled : whole ++ fraction ≠ [])
      (areDigits : AreDigits (whole ++ fraction)) :
      WritesDigits (whole ++ '.' :: fraction) (value (whole ++ fraction)) fraction.length

inductive Writes : List Char → Decimal → Prop
  | finite {digits powerText : List Char} {coefficient places : Nat} {power : Int}
      (mark : Option Bool) (writesDigits : WritesDigits digits coefficient places)
      (writesPower : WritesPower powerText power) :
      Writes (signText mark ++ (digits ++ powerText))
        (.finite (mark == some true) coefficient (power - places))
  | infinite {word : List Char} (mark : Option Bool)
      (isWord : word.map Char.toLower = "inf".toList ∨
        word.map Char.toLower = "infinity".toList) :
      Writes (signText mark ++ word) (.infinite (mark == some true))
  | notANumber {word : List Char} (mark : Option Bool)
      (isWord : word.map Char.toLower = "nan".toList) :
      Writes (signText mark ++ word) .notANumber

/-! ## Signs -/

private theorem exists_sign (text : List Char) :
    ∃ mark rest, text = signText mark ++ rest ∧ sign text = (mark == some true, rest) := by
  unfold sign
  split
  · exact ⟨some true, _, rfl, rfl⟩
  · exact ⟨some false, _, rfl, rfl⟩
  · exact ⟨none, _, rfl, rfl⟩

/-- Where a second sign could not be, a sign is told apart from what is behind it. -/
theorem sign_append (mark : Option Bool) {text : List Char}
    (unsigned : ∀ character ∈ text.head?, character ≠ '-' ∧ character ≠ '+') :
    sign (signText mark ++ text) = (mark == some true, text) := by
  cases mark with
  | none =>
      cases text with
      | nil => rfl
      | cons first rest =>
          have other := unsigned first rfl
          simp [signText, sign, other.1, other.2]
  | some negative => cases negative <;> rfl

theorem AreDigits.unsigned {text : List Char} (areDigits : AreDigits text) :
    ∀ character ∈ text.head?, character ≠ '-' ∧ character ≠ '+' := by
  intro character first
  have digit := areDigits character (List.mem_of_mem_head? first)
  constructor <;> rintro rfl <;> cases digit

/-! ## Digits and powers -/

theorem exponent?_eq_some_iff {text : List Char} {power : Int} :
    exponent? text = some power ↔ WritesPower text power := by
  constructor
  · intro found
    unfold exponent? at found
    split at found
    · cases found
      exact .nothing
    · next letter rest =>
      split_ifs at found with isLetter
      rcases exists_sign rest with ⟨mark, digits, rfl, signed⟩
      rw [signed] at found
      dsimp only at found
      split at found
      · cases found
      · next wellFormed =>
        cases found
        rw [Bool.or_eq_true, not_or, List.isEmpty_iff] at wellFormed
        exact .power mark isLetter wellFormed.1 (by simpa [AreDigits] using wellFormed.2)
  · intro writes
    cases writes with
    | nothing => rfl
    | power mark isLetter filled areDigits =>
        simp [exponent?, isLetter, sign_append mark areDigits.unsigned, filled,
          show _ = true from List.all_eq_true.mpr areDigits]

theorem WritesPower.head {text : List Char} {power : Int} (writes : WritesPower text power) :
    ∀ character ∈ text.head?, ¬isDigit character ∧ character ≠ '.' := by
  cases writes with
  | nothing => simp
  | power mark isLetter _ _ => rcases isLetter with rfl | rfl <;> simp [isDigit]

private theorem areDigits_takeWhile (text : List Char) : AreDigits (text.takeWhile isDigit) :=
  fun _ => List.mem_takeWhile_imp

theorem AreDigits.append {text more : List Char} (first : AreDigits text)
    (second : AreDigits more) : AreDigits (text ++ more) :=
  fun character member => (List.mem_append.mp member).elim (first character) (second character)

theorem value_eq_ofDigitChars (digits : List Char) :
    value digits = Nat.ofDigitChars 10 digits 0 := by
  simp only [value, Nat.ofDigitChars, Nat.mul_comm]

theorem value_append (digits more : List Char) :
    value (digits ++ more) = value digits * 10 ^ more.length + value more := by
  rw [value_eq_ofDigitChars, value_eq_ofDigitChars, value_eq_ofDigitChars,
    Nat.ofDigitChars_append, Nat.ofDigitChars_eq_ofDigitChars_zero, Nat.mul_comm]

theorem value_lt {digits : List Char} (areDigits : AreDigits digits) :
    value digits < 10 ^ digits.length := by
  induction digits with
  | nil => exact Nat.one_pos
  | cons first rest induction =>
      have later := induction fun character member =>
        areDigits character (List.mem_cons_of_mem _ member)
      have digit := areDigits first List.mem_cons_self
      rw [isDigit, Bool.and_eq_true, decide_eq_true_eq, decide_eq_true_eq] at digit
      have single : value [first] ≤ 9 := by
        have most : first.toNat ≤ '9'.toNat := UInt32.le_iff_toNat_le.mp digit.2
        change 0 * 10 + (first.toNat - 48) ≤ 9
        change first.toNat ≤ 57 at most
        omega
      have split := value_append [first] rest
      rw [List.singleton_append] at split
      rw [split, List.length_cons, Nat.pow_succ']
      have := Nat.mul_le_mul_right (10 ^ rest.length) single
      omega

section

variable {negative : Bool} {decimal : Decimal}

private theorem exists_power {whole fraction rest : List Char}
    (found : (if whole.isEmpty && fraction.isEmpty then none
      else match exponent? rest with
        | none => none
        | some power => some (Decimal.finite negative (value (whole ++ fraction))
            (power - fraction.length))) = some decimal) :
    whole ++ fraction ≠ [] ∧ ∃ power, WritesPower rest power ∧
      decimal = .finite negative (value (whole ++ fraction)) (power - (fraction.length : Nat)) := by
  split at found
  · cases found
  next filled =>
  split at found
  · cases found
  next power read =>
  cases found
  rw [Bool.and_eq_true, List.isEmpty_iff, List.isEmpty_iff, ← List.append_eq_nil_iff] at filled
  exact ⟨filled, power, exponent?_eq_some_iff.mp read, rfl⟩

theorem writes_of_digits? {text : List Char} (found : digits? negative text = some decimal) :
    ∃ digits powerText coefficient places power, text = digits ++ powerText ∧
      WritesDigits digits coefficient places ∧ WritesPower powerText power ∧
      decimal = .finite negative coefficient (power - (places : Nat)) := by
  have parts := (List.takeWhile_append_dropWhile (p := isDigit) (l := text)).symm
  have whole := areDigits_takeWhile text
  unfold digits? at found
  dsimp only at found
  generalize text.takeWhile isDigit = wholeText at *
  generalize text.dropWhile isDigit = afterWhole at *
  subst parts
  split at found
  · next afterPoint =>
    have parts := (List.takeWhile_append_dropWhile (p := isDigit) (l := afterPoint)).symm
    have fraction := areDigits_takeWhile afterPoint
    rcases exists_power found with ⟨filled, power, writesPower, equal⟩
    refine ⟨_, _, _, _, power, ?_, .pointed filled (whole.append fraction), writesPower, equal⟩
    rw [List.append_assoc, List.cons_append, ← parts]
  · rcases exists_power found with ⟨filled, power, writesPower, equal⟩
    rw [List.append_nil] at filled equal
    exact ⟨_, _, _, _, power, rfl, .whole filled whole, writesPower, equal⟩

theorem digits?_of_writes {digits powerText : List Char} {coefficient places : Nat} {power : Int}
    (writesDigits : WritesDigits digits coefficient places)
    (writesPower : WritesPower powerText power) :
    digits? negative (digits ++ powerText) =
      some (.finite negative coefficient (power - (places : Nat))) := by
  have read := exponent?_eq_some_iff.mpr writesPower
  have head := writesPower.head
  cases writesDigits with
  | whole filled areDigits =>
      rcases Json.span_append areDigits fun character first => (head character first).1 with
        ⟨taken, dropped⟩
      unfold digits?
      dsimp only
      rw [taken, dropped]
      split
      · exact absurd rfl (head '.' rfl).2
      · simp [filled, read]
  | @pointed whole fraction filled areDigits =>
      have areWhole : AreDigits whole := fun character member =>
        areDigits character (List.mem_append_left _ member)
      have areFraction : AreDigits fraction := fun character member =>
        areDigits character (List.mem_append_right _ member)
      have point : ∀ character ∈ ('.' :: (fraction ++ powerText)).head?, ¬isDigit character := by
        simp [isDigit]
      rcases Json.span_append areWhole point with ⟨wholeTaken, wholeDropped⟩
      rcases Json.span_append areFraction fun character first => (head character first).1 with
        ⟨fractionTaken, fractionDropped⟩
      rw [List.append_assoc, List.cons_append]
      unfold digits?
      dsimp only
      rw [wholeTaken, wholeDropped]
      rw [ne_eq, List.append_eq_nil_iff, not_and] at filled
      simpa [fractionTaken, fractionDropped, read] using filled

end

/-! ## Words -/

private theorem toLower_of_isDigit {character : Char} (digit : isDigit character) :
    character.toLower = character := by
  rw [isDigit, Bool.and_eq_true, decide_eq_true_eq, decide_eq_true_eq] at digit
  have below : ¬ 'A'.val ≤ character.val := fun least =>
    absurd (Nat.le_trans (UInt32.le_iff_toNat_le.mp least) digit.2) (by decide)
  exact dif_neg fun inside => below inside.1

private theorem word_cons {word : List Char} {first : Char} {rest : List Char}
    (isWord : word.map Char.toLower = first :: rest) (letter : first = 'i' ∨ first = 'n') :
    ∃ character more, word = character :: more ∧ (character ≠ '-' ∧ character ≠ '+') ∧
      character ≠ '.' ∧ isDigit character = false := by
  cases word with
  | nil => cases isWord
  | cons character more =>
      have lower : character.toLower = first := by simpa using congrArg List.head? isWord
      have other (mark : Char) (kept : mark.toLower = mark) (noLetter : mark ≠ 'i' ∧ mark ≠ 'n') :
          character ≠ mark := by
        rintro rfl
        rw [← lower, kept] at letter
        exact letter.elim noLetter.1 noLetter.2
      refine ⟨character, more, rfl, ⟨?_, ?_⟩, ?_, Bool.eq_false_iff.mpr fun digit => ?_⟩
      · exact other '-' (by decide) (by decide)
      · exact other '+' (by decide) (by decide)
      · exact other '.' (by decide) (by decide)
      · have noLetter : character ≠ 'i' ∧ character ≠ 'n' := by
          constructor <;> rintro rfl <;> cases digit
        exact other character (toLower_of_isDigit digit) noLetter rfl

private theorem digits?_word (negative : Bool) {character : Char} {more : List Char}
    (noPoint : character ≠ '.') (noDigit : isDigit character = false) :
    digits? negative (character :: more) = none := by
  simp [digits?, noDigit, noPoint]

theorem read?_word (mark : Option Bool) {word : List Char} {first : Char} {rest : List Char}
    (isWord : word.map Char.toLower = first :: rest) (letter : first = 'i' ∨ first = 'n') :
    read? (signText mark ++ word) = word? (mark == some true) word := by
  rcases word_cons isWord letter with ⟨character, more, rfl, unsigned, noPoint, noDigit⟩
  rw [read?, sign_append mark (by simpa using unsigned)]
  dsimp only
  rw [digits?_word _ noPoint noDigit]

/-! ## Numbers -/

theorem WritesDigits.unsigned {digits : List Char} {coefficient places : Nat}
    (writes : WritesDigits digits coefficient places) (more : List Char) :
    ∀ character ∈ (digits ++ more).head?, character ≠ '-' ∧ character ≠ '+' := by
  cases writes with
  | whole filled areDigits =>
      cases digits with
      | nil => contradiction
      | cons first rest => exact fun character first => areDigits.unsigned character first
  | @pointed whole fraction filled areDigits =>
      cases whole with
      | nil => simp
      | cons first rest => exact fun character first => areDigits.unsigned character first

theorem read?_eq_some_iff {text : List Char} {decimal : Decimal} :
    read? text = some decimal ↔ Writes text decimal := by
  constructor
  · intro found
    rcases exists_sign text with ⟨mark, rest, rfl, signed⟩
    rw [read?, signed] at found
    dsimp only at found
    split at found
    · next number read =>
      cases found
      rcases writes_of_digits? read with
        ⟨digits, powerText, coefficient, places, power, rfl, writesDigits, writesPower, rfl⟩
      exact .finite mark writesDigits writesPower
    · rw [word?] at found
      split_ifs at found with infinite notANumber
      · cases found
        exact .infinite mark infinite
      · cases found
        exact .notANumber mark notANumber
  · intro writes
    cases writes with
    | finite mark writesDigits writesPower =>
        rw [read?, sign_append mark (writesDigits.unsigned _)]
        dsimp only
        rw [digits?_of_writes writesDigits writesPower]
    | infinite mark isWord =>
        have read : read? _ = word? (mark == some true) _ :=
          isWord.elim (fun isInf => read?_word mark isInf (.inl rfl)) fun isInfinity =>
            read?_word mark isInfinity (.inl rfl)
        rw [read, word?, if_pos isWord]
    | notANumber mark isWord =>
        rw [read?_word mark isWord (.inr rfl), word?, isWord]
        rfl

end ReceiverLog.Number.Decimal
