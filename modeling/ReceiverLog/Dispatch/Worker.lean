import ReceiverLog.Dispatch.Task

namespace ReceiverLog

/-! The worker of a queue. Between the starts of two tasks lies at least the
interval. Whether the queue is discarding is asked twice for each ordinary
task: when it is received, and again after the pause before it. Time is told
by a clock that never goes back. -/

/-- What a worker meets around one task: how long the task takes to arrive,
how much longer than asked a pause lasts, how long the worker takes from there
to its second question, and how long the task runs. -/
structure Pace where
  arrival : Nat := 0
  oversleep : Nat := 0
  delay : Nat := 0
  work : Nat := 0

def Pace.instant : Pace := {}

structure Start (α : Type) where
  body : α
  moment : Nat

structure Worker (α : Type) where
  now : Nat
  /-- The moment the latest pause ended, whether or not its task then ran. -/
  lastRun : Option Nat
  ran : List (Start α)

namespace Worker

variable {α : Type}

def fresh : Worker α := { now := 0, lastRun := none, ran := [] }

/-- The moment at which the interval since the latest pause has passed. Only
a pause that is needed can last too long. -/
def pauseEnd (interval oversleep now : Nat) : Option Nat → Nat
  | none => now
  | some previous =>
      if now - previous < interval then previous + interval + oversleep else now

def throttle (interval oversleep : Nat) (worker : Worker α) : Worker α :=
  let moment := pauseEnd interval oversleep worker.now worker.lastRun
  { worker with now := moment, lastRun := some moment }

def wait (time : Nat) (worker : Worker α) : Worker α :=
  { worker with now := worker.now + time }

def paused (interval : Nat) (worker : Worker α) (pace : Pace) : Worker α :=
  (worker.wait pace.arrival).throttle interval pace.oversleep

def perform (interval : Nat) (worker : Worker α) (body : α) (pace : Pace) : Worker α :=
  let paused := worker.paused interval pace
  { paused with
    now := paused.now + pace.delay + pace.work
    ran := paused.ran ++ [{ body, moment := paused.now }] }

def isDiscarding (discardFrom : Option Nat) (moment : Nat) : Bool :=
  discardFrom.any (· ≤ moment)

def take (interval : Nat) (discardFrom : Option Nat) (worker : Worker α)
    (task : Task α) (pace : Pace) : Worker α :=
  let received := worker.wait pace.arrival
  let ready := (worker.paused interval pace).wait pace.delay
  if !task.always && isDiscarding discardFrom received.now then received
  else if !task.always && isDiscarding discardFrom ready.now then ready
  else worker.perform interval task.body pace

def takeAll (interval : Nat) (discardFrom : Option Nat) (worker : Worker α)
    (tasks : List (Task α × Pace)) : Worker α :=
  tasks.foldl (fun worker (task, pace) => worker.take interval discardFrom task pace) worker

/-- The last task of all runs whatever the queue is doing. -/
def finish (interval : Nat) (worker : Worker α) (last : Option (α × Pace)) : Worker α :=
  match last with
  | none => worker
  | some (body, pace) => worker.perform interval body pace

def isSpaced (interval : Nat) : List (Start α) → Bool
  | first :: second :: rest =>
      first.moment + interval ≤ second.moment && isSpaced interval (second :: rest)
  | _ => true

end Worker

/-- The moment from which a queue discards that is ended at some moment. One
that is drained never does. -/
def Shutdown.discardsFrom (mode : Shutdown) (moment : Nat) : Option Nat :=
  if mode = .discard then some moment else none

namespace DispatchQueue

variable {α : Type}

def paced (queue : DispatchQueue α) (paces : Nat → Pace) : List (Task α × Pace) :=
  queue.tasks.zipIdx.map fun (task, index) => (task, paces index)

/-- Everything a queue runs from its first task to its shutdown, which returns
when the worker is done. -/
def shutdown (queue : DispatchQueue α) (mode : Shutdown) (moment : Nat)
    (paces : Nat → Pace) (last : Option (α × Pace)) : Worker α :=
  (Worker.fresh.takeAll queue.interval (mode.discardsFrom moment) (queue.paced paces)).finish
    queue.interval last

/-- A queue that is given up discards, and runs no last task. -/
def drop (queue : DispatchQueue α) (moment : Nat) (paces : Nat → Pace) : Worker α :=
  queue.shutdown .discard moment paces none

end DispatchQueue

end ReceiverLog
