import ReceiverLog.Json.Number
import ReceiverLog.Json.Text

namespace ReceiverLog.Json

/-! Values, and their two written forms: on one line without blanks, and over
several lines with an indentation of two blanks. A number is kept as the
literal that spells it. -/

mutual
inductive Value where
  | null
  | boolean (value : Bool)
  | number (literal : String)
  /-- No text stands for a string with half a surrogate pair. -/
  | string (text : Option String)
  | array (values : Values)
  | object (members : Members)

inductive Values where
  | nil
  | cons (head : Value) (tail : Values)

inductive Members where
  | nil
  | cons (key : Option String) (value : Value) (tail : Members)
end

namespace Values

def ofList : List Value → Values
  | [] => .nil
  | head :: tail => .cons head (ofList tail)

def toList : Values → List Value
  | .nil => []
  | .cons head tail => head :: tail.toList

@[simp] theorem toList_ofList (values : List Value) : (ofList values).toList = values := by
  induction values with
  | nil => rfl
  | cons head tail induction => simp [ofList, toList, induction]

end Values

namespace Members

def ofList : List (Option String × Value) → Members
  | [] => .nil
  | (key, value) :: tail => .cons key value (ofList tail)

def toList : Members → List (Option String × Value)
  | .nil => []
  | .cons key value tail => (key, value) :: tail.toList

@[simp] theorem toList_ofList (members : List (Option String × Value)) :
    (ofList members).toList = members := by
  induction members with
  | nil => rfl
  | cons head tail induction => simp [ofList, toList, induction]

end Members

namespace Value

def text (text : String) : Value :=
  .string (some text)

def integer (value : Int) : Value :=
  .number (String.ofList (integerLiteral value))

def ofLiteral? : Option (List Char) → Value
  | none => .null
  | some literal => .number (String.ofList literal)

/-- A floating-point number; null where it has no literal. -/
def double (number : Float) : Value :=
  ofLiteral? (doubleLiteral? number)

def single (number : Float32) : Value :=
  ofLiteral? (singleLiteral? number)

def list (values : List Value) : Value :=
  .array (.ofList values)

def record (members : List (String × Value)) : Value :=
  .object (.ofList (members.map fun (key, value) => (some key, value)))

end Value

/-! ## On one line -/

mutual
def Value.compact : Value → List Char
  | .null => "null".toList
  | .boolean true => "true".toList
  | .boolean false => "false".toList
  | .number literal => literal.toList
  | .string text => quote text
  | .array values => '[' :: values.compact ++ [']']
  | .object members => '\x7b' :: members.compact ++ ['\x7d']

def Values.compact : Values → List Char
  | .nil => []
  | .cons head .nil => head.compact
  | .cons head tail => head.compact ++ ',' :: tail.compact

def Members.compact : Members → List Char
  | .nil => []
  | .cons key value .nil => quote key ++ ':' :: value.compact
  | .cons key value tail => quote key ++ ':' :: value.compact ++ ',' :: tail.compact
end

/-! ## Over several lines -/

def indentation (depth : Nat) : List Char :=
  '\n' :: List.replicate (2 * depth) ' '

mutual
def Value.indented (depth : Nat) : Value → List Char
  | .null => "null".toList
  | .boolean true => "true".toList
  | .boolean false => "false".toList
  | .number literal => literal.toList
  | .string text => quote text
  | .array .nil => ['[', ']']
  | .array values => '[' :: values.indented (depth + 1) ++ indentation depth ++ [']']
  | .object .nil => ['\x7b', '\x7d']
  | .object members =>
      '\x7b' :: members.indented (depth + 1) ++ indentation depth ++ ['\x7d']

def Values.indented (depth : Nat) : Values → List Char
  | .nil => []
  | .cons head .nil => indentation depth ++ head.indented depth
  | .cons head tail => indentation depth ++ head.indented depth ++ ',' :: tail.indented depth

def Members.indented (depth : Nat) : Members → List Char
  | .nil => []
  | .cons key value .nil =>
      indentation depth ++ quote key ++ ':' :: ' ' :: value.indented depth
  | .cons key value tail =>
      indentation depth ++ quote key ++ ':' :: ' ' :: value.indented depth
        ++ ',' :: tail.indented depth
end

end ReceiverLog.Json
