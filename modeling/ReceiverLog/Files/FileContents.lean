namespace ReceiverLog

/-! What a file holds: stretches of bytes that were written, and holes, which
come of a file being made longer. A hole reads as zeros and takes no room,
however long it is. -/

inductive FileContents where
  | empty
  | written (bytes : List UInt8) (rest : FileContents)
  | hole (length : Nat) (rest : FileContents)
  deriving DecidableEq

namespace FileContents

def ofList (bytes : List UInt8) : FileContents :=
  .written bytes .empty

def toList : FileContents → List UInt8
  | .empty => []
  | .written bytes rest => bytes ++ rest.toList
  | .hole length rest => List.replicate length 0 ++ rest.toList

def size : FileContents → Nat
  | .empty => 0
  | .written bytes rest => bytes.length + rest.size
  | .hole length rest => length + rest.size

def append (bytes : List UInt8) : FileContents → FileContents
  | .empty => .written bytes .empty
  | .written first rest => .written first (rest.append bytes)
  | .hole length rest => .hole length (rest.append bytes)

/-- Contents cut off at a length, or filled up to it with a hole. -/
def resize (length : Nat) : FileContents → FileContents
  | .empty => .hole length .empty
  | .written bytes rest => .written (bytes.take length) (rest.resize (length - bytes.length))
  | .hole gap rest => .hole (min length gap) (rest.resize (length - gap))

def take (count : Nat) : FileContents → List UInt8
  | .empty => []
  | .written bytes rest =>
      let head := bytes.take count
      head ++ rest.take (count - head.length)
  | .hole length rest => List.replicate (min count length) 0 ++ rest.take (count - length)

/-- What comes after the first bytes. It does not begin with an empty stretch. -/
def drop (count : Nat) : FileContents → FileContents
  | .empty => .empty
  | .written bytes rest =>
      match bytes.drop count with
      | [] => rest.drop (count - bytes.length)
      | left => .written left rest
  | .hole length rest =>
      if length ≤ count then rest.drop (count - length) else .hole (length - count) rest

/-- The length of the hole that contents begin with. -/
def gap : FileContents → Nat
  | .hole length _ => length
  | _ => 0

/-! The bytes decide what every operation comes to. -/

theorem toList_ofList (bytes : List UInt8) : (ofList bytes).toList = bytes := by
  simp [ofList, toList]

theorem length_toList (contents : FileContents) : contents.toList.length = contents.size := by
  induction contents with
  | empty => rfl
  | written bytes rest step => simp [toList, size, step]
  | hole length rest step => simp [toList, size, step]

theorem toList_append (contents : FileContents) (bytes : List UInt8) :
    (contents.append bytes).toList = contents.toList ++ bytes := by
  induction contents with
  | empty => simp [append, toList]
  | written first rest step => simp [append, toList, step]
  | hole length rest step => simp [append, toList, step]

theorem take_eq (contents : FileContents) (count : Nat) :
    contents.take count = contents.toList.take count := by
  induction contents generalizing count with
  | empty => simp [take, toList]
  | written bytes rest step =>
      have same : count - min count bytes.length = count - bytes.length := by omega
      simp [take, toList, step, List.take_append, same]
  | hole length rest step => simp [take, toList, step, List.take_append]

theorem toList_drop (contents : FileContents) (count : Nat) :
    (contents.drop count).toList = contents.toList.drop count := by
  induction contents generalizing count with
  | empty => simp [drop, toList]
  | written bytes rest step =>
      simp only [drop, toList, List.drop_append]
      split
      · next exhausted => simp [exhausted, step]
      · next present =>
          have within : ¬bytes.length ≤ count := fun short =>
            present (List.drop_eq_nil_of_le short)
          simp [toList, Nat.sub_eq_zero_of_le (Nat.le_of_not_le within)]
  | hole length rest step =>
      simp only [drop, toList, List.drop_append]
      split
      · next short => simp [step, Nat.sub_eq_zero_of_le short]
      · next long => simp [toList, Nat.sub_eq_zero_of_le (Nat.le_of_not_le long)]

theorem size_drop (contents : FileContents) (count : Nat) :
    (contents.drop count).size = contents.size - count := by
  simp [← length_toList, toList_drop]

theorem length_take (contents : FileContents) (count : Nat) :
    (contents.take count).length = min count contents.size := by
  simp [← length_toList, take_eq]

theorem gap_le_size (contents : FileContents) : contents.gap ≤ contents.size := by
  cases contents with
  | empty => simp [gap, size]
  | written bytes rest => simp [gap]
  | hole length rest => simp [gap, size]

theorem take_of_le_gap {contents : FileContents} {count : Nat} (within : count ≤ contents.gap) :
    contents.toList.take count = List.replicate count 0 := by
  cases contents with
  | empty => simp_all [gap, toList]
  | written bytes rest => simp_all [gap]
  | hole length rest =>
      simp only [gap] at within
      simp [toList, List.take_append, within]

end FileContents

end ReceiverLog
