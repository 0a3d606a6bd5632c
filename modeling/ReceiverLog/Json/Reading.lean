import ReceiverLog.Json.Token
import ReceiverLog.Json.Value

namespace ReceiverLog.Json

/-! Reading a value from its tokens. What is open around the next token is
kept on a stack, so nesting may be as deep as the text allows. -/

/-- An array or an object around the value being read, with what comes before
that value, last first. -/
inductive Enclosure where
  | item (before : List Value)
  | member (before : List (Option String × Value)) (key : Option String)

inductive ReadingState where
  /-- A value has to come. -/
  | value (stack : List Enclosure)
  /-- An array has just been opened. -/
  | opened (stack : List Enclosure)
  /-- A key has to come, or the end of the object if it has no members yet. -/
  | key (members : List (Option String × Value)) (stack : List Enclosure)
  | colon (members : List (Option String × Value)) (key : Option String)
      (stack : List Enclosure)
  /-- A whole value has been read. -/
  | complete (value : Value) (stack : List Enclosure)

namespace ReadingState

def takeValue (stack : List Enclosure) : Token → Option ReadingState
  | .openArray => some (.opened stack)
  | .openObject => some (.key [] stack)
  | .null => some (.complete .null stack)
  | .boolean truth => some (.complete (.boolean truth) stack)
  | .number literal => some (.complete (.number literal) stack)
  | .string text => some (.complete (.string text) stack)
  | _ => none

def step : ReadingState → Token → Option ReadingState
  | .value stack, token => takeValue stack token
  | .opened stack, .closeArray => some (.complete (.array .nil) stack)
  | .opened stack, token => takeValue (.item [] :: stack) token
  | .key [] stack, .closeObject => some (.complete (.object .nil) stack)
  | .key members stack, .string name => some (.colon members name stack)
  | .colon members name stack, .colon => some (.value (.member members name :: stack))
  | .complete last (.item before :: stack), .comma =>
      some (.value (.item (last :: before) :: stack))
  | .complete last (.item before :: stack), .closeArray =>
      some (.complete (.array (.ofList (last :: before).reverse)) stack)
  | .complete last (.member before name :: stack), .comma =>
      some (.key ((name, last) :: before) stack)
  | .complete last (.member before name :: stack), .closeObject =>
      some (.complete (.object (.ofList ((name, last) :: before).reverse)) stack)
  | _, _ => none

def run : ReadingState → List Token → Option ReadingState
  | state, [] => some state
  | state, token :: rest =>
      match state.step token with
      | some next => run next rest
      | none => none

def result? : ReadingState → Option Value
  | .complete result [] => some result
  | _ => none

end ReadingState

def Value.read? (text : List Char) : Option Value := do
  let tokens ← Token.all? text
  let final ← (ReadingState.value []).run tokens
  final.result?

end ReceiverLog.Json
