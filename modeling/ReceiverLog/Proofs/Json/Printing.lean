import ReceiverLog.Json.Reading
import ReceiverLog.Proofs.Json.Lexing

namespace ReceiverLog.Json

/-! A written value is read back. A value has its tokens, which its text spells
and which bring the reading from expecting a value to having that value. -/

mutual
def Value.tokens : Value → List Token
  | .null => [.null]
  | .boolean truth => [.boolean truth]
  | .number literal => [.number literal]
  | .string text => [.string text]
  | .array values => .openArray :: (values.tokens ++ [.closeArray])
  | .object members => .openObject :: (members.tokens ++ [.closeObject])

def Values.tokens : Values → List Token
  | .nil => []
  | .cons head .nil => head.tokens
  | .cons head tail => head.tokens ++ .comma :: tail.tokens

def Members.tokens : Members → List Token
  | .nil => []
  | .cons key value .nil => .string key :: .colon :: value.tokens
  | .cons key value tail => .string key :: .colon :: (value.tokens ++ .comma :: tail.tokens)
end

mutual
def Value.HasLiterals : Value → Prop
  | .number literal => isLiteral literal.toList
  | .array values => values.HasLiterals
  | .object members => members.HasLiterals
  | .null | .boolean _ | .string _ => True

def Values.HasLiterals : Values → Prop
  | .nil => True
  | .cons head tail => head.HasLiterals ∧ tail.HasLiterals

def Members.HasLiterals : Members → Prop
  | .nil => True
  | .cons _ value tail => value.HasLiterals ∧ tail.HasLiterals
end

namespace Value

theorem hasLiterals_integer (value : Int) : (integer value).HasLiterals := by
  simpa [integer, HasLiterals] using isLiteral_integerLiteral value

theorem hasLiterals_record {members : List (String × Value)}
    (literals : ∀ member ∈ members, member.2.HasLiterals) : (record members).HasLiterals := by
  induction members with
  | nil => trivial
  | cons head tail induction =>
    rw [List.forall_mem_cons] at literals
    exact ⟨literals.1, induction literals.2⟩

theorem hasLiterals_list {values : List Value}
    (literals : ∀ value ∈ values, value.HasLiterals) : (list values).HasLiterals := by
  induction values with
  | nil => trivial
  | cons head tail induction =>
    rw [List.forall_mem_cons] at literals
    exact ⟨literals.1, induction literals.2⟩

end Value

/-! ## Texts spell tokens -/

namespace Spells

private theorem replicate_blank {text : List Char} {tokens : List Token} (tail : Spells text tokens)
    (count : Nat) : Spells (List.replicate count ' ' ++ text) tokens := by
  induction count with
  | zero => exact tail
  | succ count induction => exact blank (fun _ => rfl) induction

theorem indentation {text : List Char} {tokens : List Token} (tail : Spells text tokens)
    (depth : Nat) : Spells (Json.indentation depth ++ text) tokens :=
  blank (fun _ => rfl) (tail.replicate_blank (2 * depth))

theorem comma {text more : List Char} {tokens others : List Token} (first : Spells text tokens)
    (second : Spells more others) : Spells (text ++ ',' :: more) (tokens ++ .comma :: others) :=
  first.append (cons [','] (fun _ => rfl) second) (endsNumber_cons (by decide) _)

theorem closed {text : List Char} {tokens : List Token} (inside : Spells text tokens) (depth : Nat)
    {bracket : Char} {token : Token} (lexed : ∀ rest, Lexeme.of (bracket :: rest) = .token token rest) :
    Spells (text ++ Json.indentation depth ++ [bracket]) (tokens ++ [token]) := by
  rw [List.append_assoc]
  exact inside.append ((single [bracket] lexed).indentation depth)
    (endsNumber_cons (by decide) _)

theorem member {text : List Char} {tokens : List Token} (key : Option String)
    (value : Spells text tokens) (depth : Nat) :
    Spells (Json.indentation depth ++ Json.quote key ++ ':' :: ' ' :: text)
      (.string key :: .colon :: tokens) := by
  rw [List.append_assoc]
  exact indentation (cons _ (Lexeme.of_quote key)
    (cons [':'] (fun _ => rfl) (blank (fun _ => rfl) value))) depth

end Spells

mutual
theorem Value.spells_indented (depth : Nat) (value : Value) (literals : value.HasLiterals) :
    Spells (value.indented depth) value.tokens := by
  match value with
  | .null => exact .single _ fun _ => rfl
  | .boolean true => exact .single _ fun _ => rfl
  | .boolean false => exact .single _ fun _ => rfl
  | .number literal => exact .literal literals
  | .string text => exact .quote text
  | .array .nil =>
    exact .cons ['['] (fun _ => rfl) (.single [']'] fun _ => rfl)
  | .array (.cons head tail) =>
    have inside := Values.spells_indented (depth + 1) (.cons head tail) literals
    exact .cons ['['] (fun _ => rfl) (inside.closed depth fun _ => rfl)
  | .object .nil =>
    exact .cons ['\x7b'] (fun _ => rfl) (.single ['\x7d'] fun _ => rfl)
  | .object (.cons key value tail) =>
    have inside := Members.spells_indented (depth + 1) (.cons key value tail) literals
    exact .cons ['\x7b'] (fun _ => rfl) (inside.closed depth fun _ => rfl)

theorem Values.spells_indented (depth : Nat) (values : Values) (literals : values.HasLiterals) :
    Spells (values.indented depth) values.tokens := by
  match values with
  | .nil => exact .nil
  | .cons head .nil => exact (head.spells_indented depth literals.1).indentation depth
  | .cons head (.cons second tail) =>
    have first := (head.spells_indented depth literals.1).indentation depth
    exact first.comma (Values.spells_indented depth (.cons second tail) literals.2)

theorem Members.spells_indented (depth : Nat) (members : Members) (literals : members.HasLiterals) :
    Spells (members.indented depth) members.tokens := by
  match members with
  | .nil => exact .nil
  | .cons key value .nil => exact .member key (value.spells_indented depth literals.1) depth
  | .cons key value (.cons second other tail) =>
    have first := Spells.member key (value.spells_indented depth literals.1) depth
    exact first.comma (Members.spells_indented depth (.cons second other tail) literals.2)
end

/-! ## Tokens are read as the value -/

theorem Values.ofList_toList : ∀ values : Values, Values.ofList values.toList = values
  | .nil => rfl
  | .cons head tail => congrArg (Values.cons head) (ofList_toList tail)

theorem Members.ofList_toList : ∀ members : Members, Members.ofList members.toList = members
  | .nil => rfl
  | .cons key value tail => congrArg (Members.cons key value) (ofList_toList tail)

namespace ReadingState

theorem run_cons {state next : ReadingState} {token : Token}
    (stepped : state.step token = some next) (rest : List Token) :
    state.run (token :: rest) = next.run rest := by
  rw [run, stepped]

private theorem run_opened (head : Value) (tail : Values) (stack : List Enclosure)
    (rest : List Token) :
    (ReadingState.opened stack).run ((Values.cons head tail).tokens ++ rest)
      = (ReadingState.value (.item [] :: stack)).run ((Values.cons head tail).tokens ++ rest) := by
  cases tail <;> cases head <;> rfl

theorem run_member (before : List (Option String × Value)) (name : Option String)
    (stack : List Enclosure) (rest : List Token) :
    (ReadingState.key before stack).run (.string name :: .colon :: rest)
      = (ReadingState.value (.member before name :: stack)).run rest := by
  cases before <;> rfl

mutual
theorem run_value (value : Value) (stack : List Enclosure) (rest : List Token) :
    (ReadingState.value stack).run (value.tokens ++ rest)
      = (ReadingState.complete value stack).run rest := by
  match value with
  | .null | .boolean _ | .number _ | .string _ | .array .nil | .object .nil => rfl
  | .array (.cons head tail) =>
    have inside := run_values (.cons head tail) Values.noConfusion [] stack rest
    rw [List.reverse_nil, List.nil_append, Values.ofList_toList] at inside
    simp only [Value.tokens, List.cons_append, List.append_assoc, List.nil_append]
    rw [run_cons rfl, run_opened, inside]
  | .object (.cons name first tail) =>
    have inside := run_members (.cons name first tail) Members.noConfusion [] stack rest
    rw [List.reverse_nil, List.nil_append, Members.ofList_toList] at inside
    simp only [Value.tokens, List.cons_append, List.append_assoc, List.nil_append]
    rw [run_cons rfl, inside]

theorem run_values (values : Values) (some : values ≠ .nil) (before : List Value)
    (stack : List Enclosure) (rest : List Token) :
    (ReadingState.value (.item before :: stack)).run (values.tokens ++ .closeArray :: rest)
      = (ReadingState.complete (.array (.ofList (before.reverse ++ values.toList))) stack).run
          rest := by
  match values with
  | .nil => contradiction
  | .cons head .nil =>
    rw [Values.tokens, run_value, run_cons rfl, List.reverse_cons]
    rfl
  | .cons head (.cons second tail) =>
    simp only [Values.tokens, List.append_assoc, List.cons_append]
    rw [run_value, run_cons rfl, run_values _ Values.noConfusion, List.reverse_cons,
      List.append_assoc]
    rfl

theorem run_members (members : Members) (some : members ≠ .nil)
    (before : List (Option String × Value)) (stack : List Enclosure) (rest : List Token) :
    (ReadingState.key before stack).run (members.tokens ++ .closeObject :: rest)
      = (ReadingState.complete (.object (.ofList (before.reverse ++ members.toList))) stack).run
          rest := by
  match members with
  | .nil => contradiction
  | .cons name first .nil =>
    rw [Members.tokens, List.cons_append, List.cons_append, run_member, run_value, run_cons rfl,
      List.reverse_cons]
    rfl
  | .cons name first (.cons second other tail) =>
    simp only [Members.tokens, List.append_assoc, List.cons_append]
    rw [run_member, run_value, run_cons rfl, run_members _ Members.noConfusion, List.reverse_cons,
      List.append_assoc]
    rfl
end

end ReadingState

/-- A text that spells the tokens of a value reads as that value. -/
theorem Value.read?_of_spells {text : List Char} {value : Value} (spells : Spells text value.tokens) :
    Value.read? text = some value := by
  have run := ReadingState.run_value value [] []
  rw [List.append_nil] at run
  simp only [Value.read?, spells.all?, run, ReadingState.run, Option.bind_eq_bind,
    Option.bind_some, ReadingState.result?]

theorem Value.read?_indented {value : Value} (literals : value.HasLiterals) (depth : Nat) :
    Value.read? (value.indented depth) = some value :=
  Value.read?_of_spells (value.spells_indented depth literals)

end ReceiverLog.Json
