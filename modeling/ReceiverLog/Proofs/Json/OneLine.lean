import ReceiverLog.Proofs.Json.Printing

namespace ReceiverLog.Json

/-! Values on one line. Whatever is in a value, its compact text holds no
control character, and so no line break; and it is read back as the value. -/

def IsOneLine (text : List Char) : Prop :=
  ∀ character ∈ text, ¬ character < ' '

namespace IsOneLine

theorem nil : IsOneLine [] := by
  simp [IsOneLine]

theorem cons {character : Char} {text : List Char} (head : ¬ character < ' ')
    (tail : IsOneLine text) : IsOneLine (character :: text) :=
  List.forall_mem_cons.mpr ⟨head, tail⟩

theorem append {text more : List Char} (first : IsOneLine text) (second : IsOneLine more) :
    IsOneLine (text ++ more) := by
  intro character member
  rcases List.mem_append.mp member with member | member
  · exact first character member
  · exact second character member

theorem enclose {text : List Char} {first last : Char} (first_visible : ¬ first < ' ')
    (inside : IsOneLine text) (last_visible : ¬ last < ' ') :
    IsOneLine (first :: text ++ [last]) :=
  (cons first_visible inside).append (cons last_visible nil)

theorem comma {text more : List Char} (first : IsOneLine text) (second : IsOneLine more) :
    IsOneLine (text ++ ',' :: more) :=
  first.append (cons (by decide) second)

theorem of_all {text : List Char} (all : text.all fun character => !decide (character < ' ')) :
    IsOneLine text := by
  simpa [IsOneLine] using all

theorem newline_not_mem {text : List Char} (oneLine : IsOneLine text) : '\n' ∉ text :=
  fun member => oneLine '\n' member (by decide)

theorem of_isLiteral {text : List Char} (literal : isLiteral text) : IsOneLine text := by
  intro character member control
  have numeric := IsNumericText.of_isLiteral literal character member
  simp only [isNumeric, isDigit, Bool.or_eq_true, Bool.and_eq_true, decide_eq_true_eq,
    List.mem_cons, List.not_mem_nil, or_false] at numeric
  rcases numeric with ⟨zero_le, -⟩ | rfl | rfl | rfl | rfl | rfl
  · have small : character.toNat < 32 := control
    have large : 48 ≤ character.toNat := zero_le
    omega
  all_goals exact absurd control (by decide)

/-! ## Strings -/

private theorem unit_digits {unit : Nat} (small : unit < 32) :
    IsOneLine (List.replicate (4 - (Nat.toDigits 16 unit).length) '0' ++ Nat.toDigits 16 unit) := by
  have all : ∀ unit < 32, (List.replicate (4 - (Nat.toDigits 16 unit).length) '0'
      ++ Nat.toDigits 16 unit).all fun character => !decide (character < ' ') := by
    decide
  exact of_all (all unit small)

theorem escaped (character : Char) : IsOneLine (Json.escaped character) := by
  unfold Json.escaped
  split_ifs with _ _ _ _ _ _ _ control
  all_goals try exact cons (by decide) (cons (by decide) nil)
  · rw [List.append_assoc]
    exact cons (by decide) (cons (by decide) (unit_digits control))
  · exact cons control nil

theorem quote (text : Option String) : IsOneLine (Json.quote text) := by
  cases text with
  | none =>
    rw [quote_none]
    exact of_all rfl
  | some text =>
    refine enclose (by decide) (fun character member => ?_) (by decide)
    rcases List.mem_flatMap.mp member with ⟨single, _, member⟩
    exact escaped single character member

theorem member {text : List Char} (key : Option String) (value : IsOneLine text) :
    IsOneLine (Json.quote key ++ ':' :: text) :=
  (quote key).append (cons (by decide) value)

end IsOneLine

/-! ## Values -/

mutual
theorem Value.isOneLine_compact (value : Value) (literals : value.HasLiterals) :
    IsOneLine value.compact := by
  match value with
  | .null | .boolean true | .boolean false => exact .of_all rfl
  | .number literal => exact .of_isLiteral literals
  | .string text => exact .quote text
  | .array values => exact .enclose (by decide) (values.isOneLine_compact literals) (by decide)
  | .object members => exact .enclose (by decide) (members.isOneLine_compact literals) (by decide)

theorem Values.isOneLine_compact (values : Values) (literals : values.HasLiterals) :
    IsOneLine values.compact := by
  match values with
  | .nil => exact .nil
  | .cons head .nil => exact head.isOneLine_compact literals.1
  | .cons head (.cons second tail) =>
    have first := head.isOneLine_compact literals.1
    exact first.comma (Values.isOneLine_compact (.cons second tail) literals.2)

theorem Members.isOneLine_compact (members : Members) (literals : members.HasLiterals) :
    IsOneLine members.compact := by
  match members with
  | .nil => exact .nil
  | .cons key value .nil => exact .member key (value.isOneLine_compact literals.1)
  | .cons key value (.cons second other tail) =>
    have first := IsOneLine.member key (value.isOneLine_compact literals.1)
    exact first.comma (Members.isOneLine_compact (.cons second other tail) literals.2)
end

namespace Spells

theorem enclose {text : List Char} {tokens : List Token} {first last : Char} {opened closed : Token}
    (lexed_first : ∀ rest, Lexeme.of (first :: rest) = .token opened rest)
    (inside : Spells text tokens)
    (lexed_last : ∀ rest, Lexeme.of (last :: rest) = .token closed rest)
    (ends : ¬ isNumeric last) : Spells (first :: text ++ [last]) (opened :: (tokens ++ [closed])) :=
  cons [first] lexed_first
    (inside.append (single [last] lexed_last) (endsNumber_cons ends _))

theorem compactMember {text : List Char} {tokens : List Token} (key : Option String)
    (value : Spells text tokens) :
    Spells (Json.quote key ++ ':' :: text) (.string key :: .colon :: tokens) :=
  cons _ (Lexeme.of_quote key) (cons [':'] (fun _ => rfl) value)

end Spells

mutual
theorem Value.spells_compact (value : Value) (literals : value.HasLiterals) :
    Spells value.compact value.tokens := by
  match value with
  | .null => exact .single _ fun _ => rfl
  | .boolean true => exact .single _ fun _ => rfl
  | .boolean false => exact .single _ fun _ => rfl
  | .number literal => exact .literal literals
  | .string text => exact .quote text
  | .array values =>
    exact .enclose (fun _ => rfl) (values.spells_compact literals) (fun _ => rfl) (by decide)
  | .object members =>
    exact .enclose (fun _ => rfl) (members.spells_compact literals) (fun _ => rfl) (by decide)

theorem Values.spells_compact (values : Values) (literals : values.HasLiterals) :
    Spells values.compact values.tokens := by
  match values with
  | .nil => exact .nil
  | .cons head .nil => exact head.spells_compact literals.1
  | .cons head (.cons second tail) =>
    have first := head.spells_compact literals.1
    exact first.comma (Values.spells_compact (.cons second tail) literals.2)

theorem Members.spells_compact (members : Members) (literals : members.HasLiterals) :
    Spells members.compact members.tokens := by
  match members with
  | .nil => exact .nil
  | .cons key value .nil => exact .compactMember key (value.spells_compact literals.1)
  | .cons key value (.cons second other tail) =>
    have first := Spells.compactMember key (value.spells_compact literals.1)
    exact first.comma (Members.spells_compact (.cons second other tail) literals.2)
end

theorem Value.read?_compact {value : Value} (literals : value.HasLiterals) :
    Value.read? value.compact = some value :=
  Value.read?_of_spells (value.spells_compact literals)

end ReceiverLog.Json
