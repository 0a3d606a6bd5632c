import ReceiverLog.Malformed
import ReceiverLog.Text.Blank
import ReceiverLog.Text.Split

namespace ReceiverLog

/-! The comma-separated fields of a sentence. Field 0 is the address; how
many fields there must be depends on the kind of sentence, and the type of a
field's index says that it is one of those. -/

instance (kind : SentenceKind) : @NeZero Nat Zero.ofOfNat0 kind.fieldCount :=
  ⟨by cases kind <;> exact Nat.succ_ne_zero _⟩

structure Fields (kind : SentenceKind) where
  texts : List (List Char)
  enough : kind.fieldCount ≤ texts.length

/-- A field that may be blank, which means that its value is absent. What is
there has to be readable. -/
def readField {α : Type} (kind : SentenceKind) (index : Nat)
    (read : List Char → Option α) (text : List Char) : Except Malformed (Option α) :=
  let trimmed := Text.trim text
  if trimmed.isEmpty then .ok none
  else
    match read trimmed with
    | some value => .ok (some value)
    | none => .error (.invalidField kind index trimmed)

inductive Axis where
  | northSouth | eastWest
  deriving DecidableEq

namespace Axis

def positive : Axis → List Char
  | .northSouth => ['N']
  | .eastWest => ['E']

def negative : Axis → List Char
  | .northSouth => ['S']
  | .eastWest => ['W']

end Axis

/-- Degrees from a number whose last two digits before the point, with the
fraction, are minutes. -/
def degreesOf (number : Float) : Float :=
  let degrees := Number.wholePart (number / 100.0)
  let minutes := number - degrees * 100.0
  degrees + minutes / 60.0

namespace Fields

variable {kind : SentenceKind}

def of (kind : SentenceKind) (texts : List (List Char)) : Except Malformed (Fields kind) :=
  if enough : kind.fieldCount ≤ texts.length then .ok { texts, enough }
  else .error (.missingFields kind texts.length)

theorem texts_eq_of_of {texts : List (List Char)} {fields : Fields kind}
    (found : of kind texts = .ok fields) : fields.texts = texts := by
  unfold of at found
  split at found
  · cases found
    rfl
  · cases found

def text (fields : Fields kind) (index : Fin kind.fieldCount) : List Char :=
  fields.texts.get (index.castLE fields.enough)

def trimmed (fields : Fields kind) (index : Fin kind.fieldCount) : List Char :=
  Text.trim (fields.text index)

def optional {α : Type} (fields : Fields kind) (read : List Char → Option α)
    (index : Fin kind.fieldCount) : Except Malformed (Option α) :=
  readField kind index read (fields.text index)

def required {α : Type} (fields : Fields kind) (read : List Char → Option α)
    (index : Fin kind.fieldCount) : Except Malformed α := do
  match ← fields.optional read index with
  | some value => .ok value
  | none => .error (.invalidField kind index (fields.text index))

/-- A coordinate is absent when its number and its hemisphere both are. -/
def coordinate (fields : Fields kind) (axis : Axis)
    (number hemisphere : Fin kind.fieldCount) : Except Malformed (Option Float) :=
  let numberText := fields.trimmed number
  let hemisphereText := fields.trimmed hemisphere
  if numberText.isEmpty && hemisphereText.isEmpty then .ok none
  else
    match Number.double? numberText with
    | none => .error (.invalidField kind number numberText)
    | some value =>
        let degrees := degreesOf value
        if hemisphereText = axis.negative then .ok (some (-degrees))
        else if hemisphereText = axis.positive then .ok (some degrees)
        else .error (.invalidField kind hemisphere hemisphereText)

end Fields

end ReceiverLog
