namespace ReceiverLog

/-! Tasks queued for a worker that runs them in order, one at a time. -/

/-- A task; one that always runs does so even when the queue is discarding. -/
structure Task (α : Type) where
  body : α
  always : Bool

namespace Task

def ordinary {α : Type} (body : α) : Task α := { body, always := false }

def kept {α : Type} (body : α) : Task α := { body, always := true }

def discard {α : Type} (tasks : List (Task α)) (last : Option α) : List (Task α) :=
  tasks.filter (·.always) ++ (last.map kept).toList

end Task

inductive Shutdown where
  | drain | discard
  deriving DecidableEq

structure DispatchQueue (α : Type) where
  interval : Nat
  tasks : List (Task α)
  isOpen : Bool

namespace DispatchQueue

variable {α : Type}

def opened (interval : Nat) : DispatchQueue α :=
  { interval, tasks := [], isOpen := true }

def enqueue (queue : DispatchQueue α) (task : Task α) : DispatchQueue α × Bool :=
  if queue.isOpen then ({ queue with tasks := queue.tasks ++ [task] }, true)
  else (queue, false)

end DispatchQueue

end ReceiverLog
