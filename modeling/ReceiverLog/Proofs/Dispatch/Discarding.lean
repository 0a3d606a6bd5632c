import ReceiverLog.Dispatch.Worker

namespace ReceiverLog

/-! What a queue runs until it is ended. Its worker is always somewhere between two
questions when the queue begins to discard. The ordinary tasks that were asked
about for the last time before that moment have been let through, and no others;
tasks that always run and the last task are not held up by it. -/

namespace Worker

variable {α : Type}

/-! ## Questions -/

def lastAsked (interval : Nat) (discardFrom : Option Nat) (worker : Worker α) (pace : Pace) :
    Nat :=
  let received := worker.wait pace.arrival
  let ready := (worker.paused interval pace).wait pace.delay
  if isDiscarding discardFrom received.now then received.now else ready.now

def asked (interval : Nat) (discardFrom : Option Nat) (worker : Worker α) :
    List (Task α × Pace) → List (Task α × Nat)
  | [] => []
  | (task, pace) :: rest =>
      (task, worker.lastAsked interval discardFrom pace) ::
        asked interval discardFrom (worker.take interval discardFrom task pace) rest

/-- A task that is run, being asked about for the last time at some moment. -/
def isLetThrough (discardFrom : Option Nat) (entry : Task α × Nat) : Bool :=
  entry.1.always || !isDiscarding discardFrom entry.2

section

variable {interval : Nat} {discardFrom : Option Nat} {worker : Worker α}

private theorem map_asked (worker : Worker α) (tasks : List (Task α × Pace)) :
    (worker.asked interval discardFrom tasks).map (·.1) = tasks.map (·.1) := by
  induction tasks generalizing worker with
  | nil => rfl
  | cons entry tasks induction =>
      rw [asked, List.map_cons, List.map_cons, induction]

theorem isDiscarding_mono {earlier later : Nat} (before : earlier ≤ later)
    (discarding : isDiscarding discardFrom earlier = true) :
    isDiscarding discardFrom later = true := by
  cases discardFrom with
  | none => cases discarding
  | some moment =>
      simp only [isDiscarding, Option.any_some, decide_eq_true_eq] at discarding ⊢
      omega

private theorem le_pauseEnd (interval oversleep now : Nat) (lastRun : Option Nat) :
    now ≤ pauseEnd interval oversleep now lastRun := by
  cases lastRun with
  | none => exact Nat.le_refl now
  | some previous =>
      unfold pauseEnd
      dsimp only
      split <;> omega

private theorem now_le_throttle (interval oversleep : Nat) (worker : Worker α) :
    worker.now ≤ (worker.throttle interval oversleep).now :=
  le_pauseEnd interval oversleep worker.now worker.lastRun

theorem received_le_paused (interval : Nat) (worker : Worker α) (pace : Pace) :
    worker.now + pace.arrival ≤ (worker.paused interval pace).now :=
  now_le_throttle interval pace.oversleep (worker.wait pace.arrival)

theorem now_le_lastAsked (interval : Nat) (discardFrom : Option Nat) (worker : Worker α)
    (pace : Pace) :
    worker.now ≤ worker.lastAsked interval discardFrom pace := by
  have bound := worker.received_le_paused interval pace
  rw [lastAsked]
  split
  · dsimp only [wait]
    omega
  · dsimp only [wait]
    omega

theorem lastAsked_le_paused (interval : Nat) (discardFrom : Option Nat) (worker : Worker α)
    (pace : Pace) :
    worker.lastAsked interval discardFrom pace ≤
      (worker.paused interval pace).now + pace.delay := by
  have bound := worker.received_le_paused interval pace
  rw [lastAsked]
  split
  · dsimp only [wait]
    omega
  · dsimp only [wait]
    omega

theorem take_of_letThrough {task : Task α} {pace : Pace}
    (through : isLetThrough discardFrom (task, worker.lastAsked interval discardFrom pace) = true) :
    worker.take interval discardFrom task pace = worker.perform interval task.body pace := by
  rw [isLetThrough, lastAsked] at through
  rw [take]
  cases kind : task.always with
  | true => rfl
  | false =>
      cases first : isDiscarding discardFrom (worker.wait pace.arrival).now with
      | true => simp [kind, first] at through
      | false => simp_all

theorem take_of_discarded {task : Task α} {pace : Pace}
    (discarded :
      isLetThrough discardFrom (task, worker.lastAsked interval discardFrom pace) = false) :
    (worker.take interval discardFrom task pace).now =
        worker.lastAsked interval discardFrom pace ∧
      (worker.take interval discardFrom task pace).ran = worker.ran := by
  rw [isLetThrough, Bool.or_eq_false_iff, Bool.not_eq_false', lastAsked] at discarded
  rcases discarded with ⟨kind, caught⟩
  rw [take, lastAsked]
  cases first : isDiscarding discardFrom (worker.wait pace.arrival).now with
  | true => simp_all [wait]
  | false => simp_all [wait, paused, throttle]

theorem lastAsked_le_take (interval : Nat) (discardFrom : Option Nat) (worker : Worker α)
    (task : Task α) (pace : Pace) :
    worker.lastAsked interval discardFrom pace ≤
      (worker.take interval discardFrom task pace).now := by
  have bound := worker.lastAsked_le_paused interval discardFrom pace
  cases through : isLetThrough discardFrom
      (task, worker.lastAsked interval discardFrom pace) with
  | true =>
      rw [take_of_letThrough through]
      dsimp only [perform]
      omega
  | false => exact Nat.le_of_eq (take_of_discarded through).1.symm

/-! ## One task after the other -/

theorem ran_takeAll (worker : Worker α) (tasks : List (Task α × Pace)) :
    (worker.takeAll interval discardFrom tasks).ran.map (·.body) =
      worker.ran.map (·.body) ++
        ((worker.asked interval discardFrom tasks).filter (isLetThrough discardFrom)).map
          (·.1.body) := by
  induction tasks generalizing worker with
  | nil => simp [takeAll, asked]
  | cons entry tasks induction =>
      rcases entry with ⟨task, pace⟩
      rw [takeAll, List.foldl_cons]
      have later := induction (worker.take interval discardFrom task pace)
      rw [takeAll] at later
      rw [later, asked]
      cases through : isLetThrough discardFrom
          (task, worker.lastAsked interval discardFrom pace) with
      | true =>
          rw [take_of_letThrough through, List.filter_cons_of_pos through]
          simp [perform, paused, throttle, wait]
      | false =>
          rw [(take_of_discarded through).2, List.filter_cons_of_neg (by simp [through])]

theorem asked_of_discarding {worker : Worker α}
    (discarding : isDiscarding discardFrom worker.now = true) (tasks : List (Task α × Pace)) :
    ∀ entry ∈ worker.asked interval discardFrom tasks,
      isDiscarding discardFrom entry.2 = true := by
  induction tasks generalizing worker with
  | nil => simp [asked]
  | cons entry tasks induction =>
      rcases entry with ⟨task, pace⟩
      have caught := isDiscarding_mono
        (worker.now_le_lastAsked interval discardFrom pace) discarding
      have later := isDiscarding_mono
        (worker.lastAsked_le_take interval discardFrom task pace) caught
      rw [asked, List.forall_mem_cons]
      exact ⟨caught, induction later⟩

/-- There is a place in the queue up to which tasks are let through, and from which
on ordinary tasks are not. -/
theorem exists_asked_split (interval : Nat) (discardFrom : Option Nat) (worker : Worker α)
    (tasks : List (Task α × Pace)) :
    ∃ before after, worker.asked interval discardFrom tasks = before ++ after ∧
      (∀ entry ∈ before, isLetThrough discardFrom entry = true) ∧
      (∀ entry ∈ after, isDiscarding discardFrom entry.2 = true) := by
  induction tasks generalizing worker with
  | nil => exact ⟨[], [], rfl, by simp, by simp⟩
  | cons entry tasks induction =>
      rcases entry with ⟨task, pace⟩
      cases through : isLetThrough discardFrom
          (task, worker.lastAsked interval discardFrom pace) with
      | true =>
          rcases induction (worker.take interval discardFrom task pace)
            with ⟨before, after, whole, passed, caught⟩
          refine ⟨_ :: before, after, by rw [asked, whole, List.cons_append], ?_, caught⟩
          exact List.forall_mem_cons.mpr ⟨through, passed⟩
      | false =>
          have discarding : isDiscarding discardFrom
              (worker.lastAsked interval discardFrom pace) = true := by
            rw [isLetThrough, Bool.or_eq_false_iff, Bool.not_eq_false'] at through
            exact through.2
          refine ⟨[], worker.asked interval discardFrom ((task, pace) :: tasks), rfl, by simp, ?_⟩
          rw [asked, List.forall_mem_cons]
          refine ⟨discarding, asked_of_discarding ?_ tasks⟩
          have bound := worker.lastAsked_le_take interval discardFrom task pace
          exact isDiscarding_mono bound discarding

/-- Every start lies before the moment that the worker has reached. -/
def IsTimely (worker : Worker α) : Prop :=
  ∀ start ∈ worker.ran, start.moment ≤ worker.now

theorem IsTimely.perform {worker : Worker α} (timely : worker.IsTimely) (body : α)
    (pace : Pace) : (worker.perform interval body pace).IsTimely := by
  have bound := worker.received_le_paused interval pace
  intro start member
  rw [Worker.perform] at member ⊢
  dsimp only at member ⊢
  rcases List.mem_append.mp member with earlier | latest
  · have before := timely start earlier
    omega
  · rw [List.mem_singleton] at latest
    subst latest
    dsimp only
    omega

theorem IsTimely.take {worker : Worker α} (timely : worker.IsTimely) (task : Task α)
    (pace : Pace) : (worker.take interval discardFrom task pace).IsTimely := by
  cases through : isLetThrough discardFrom
      (task, worker.lastAsked interval discardFrom pace) with
  | true =>
      rw [take_of_letThrough through]
      exact timely.perform task.body pace
  | false =>
      rcases take_of_discarded through with ⟨reached, sameRan⟩
      intro start member
      rw [sameRan] at member
      rw [reached]
      exact Nat.le_trans (timely start member) (worker.now_le_lastAsked interval discardFrom pace)

theorem IsTimely.takeAll {worker : Worker α} (timely : worker.IsTimely) (interval : Nat)
    (discardFrom : Option Nat) (tasks : List (Task α × Pace)) :
    (worker.takeAll interval discardFrom tasks).IsTimely := by
  induction tasks generalizing worker with
  | nil => exact timely
  | cons entry tasks induction => exact induction (timely.take entry.1 entry.2)

end

end Worker

/-! ## A queue until its end -/

theorem Task.map_body_discard {α : Type} (tasks : List (Task α)) (last : Option α) :
    (discard tasks last).map (·.body) = (tasks.filter (·.always)).map (·.body) ++ last.toList := by
  cases last <;> simp [discard, kept]

/-- What a worker has run of some tasks, each of which comes with the moment of the
last question about it, and of a last task. -/
structure Worker.HasServed {α : Type} (worker : Worker α) (discardFrom : Option Nat)
    (asked : List (Task α × Nat)) (last : Option α) (count : Nat) : Prop where
  count_le : count ≤ asked.length
  ran : worker.ran.map (·.body) =
    ((asked.map (·.1)).take count ++ Task.discard ((asked.map (·.1)).drop count) last).map
      (·.body)
  passed : ∀ entry ∈ asked.take count, entry.1.always = false →
    isDiscarding discardFrom entry.2 = false
  caught : ∀ entry ∈ asked.drop count, entry.1.always = false →
    isDiscarding discardFrom entry.2 = true
  timely : worker.IsTimely

namespace DispatchQueue

variable {α : Type}

def enqueueAll (queue : DispatchQueue α) (tasks : List (Task α)) : DispatchQueue α :=
  tasks.foldl (fun queue task => (queue.enqueue task).1) queue

def asked (queue : DispatchQueue α) (mode : Shutdown) (moment : Nat) (paces : Nat → Pace) :
    List (Task α × Nat) :=
  Worker.fresh.asked queue.interval (mode.discardsFrom moment) (queue.paced paces)

theorem enqueueAll_of_isOpen {queue : DispatchQueue α} (isOpen : queue.isOpen = true)
    (tasks : List (Task α)) :
    queue.enqueueAll tasks = { queue with tasks := queue.tasks ++ tasks } := by
  induction tasks generalizing queue with
  | nil => simp [enqueueAll]
  | cons task tasks induction =>
      have accepted : (queue.enqueue task).1 = { queue with tasks := queue.tasks ++ [task] } := by
        rw [enqueue, if_pos isOpen]
      have stillOpen : (queue.enqueue task).1.isOpen = true := by
        rw [accepted]
        exact isOpen
      refine (induction stillOpen).trans ?_
      rw [accepted, List.append_assoc, List.singleton_append]

theorem map_paced (queue : DispatchQueue α) (paces : Nat → Pace) :
    (queue.paced paces).map (·.1) = queue.tasks := by
  rw [paced, List.map_map]
  exact List.zipIdx_map_fst 0 queue.tasks

private theorem ran_finish (interval : Nat) (worker : Worker α) (last : Option (α × Pace)) :
    (worker.finish interval last).ran.map (·.body) =
      worker.ran.map (·.body) ++ (last.map (·.1)).toList := by
  cases last with
  | none => simp [Worker.finish]
  | some last => simp [Worker.finish, Worker.perform, Worker.paused, Worker.throttle, Worker.wait]

theorem shutdown_hasServed (queue : DispatchQueue α) (mode : Shutdown) (moment : Nat)
    (paces : Nat → Pace) (last : Option (α × Pace)) :
    ∃ count, (queue.shutdown mode moment paces last).HasServed (mode.discardsFrom moment)
      (queue.asked mode moment paces) (last.map (·.1)) count := by
  rcases Worker.exists_asked_split queue.interval (mode.discardsFrom moment) .fresh
    (queue.paced paces) with ⟨before, after, whole, passed, caught⟩
  have timely : (queue.shutdown mode moment paces last).IsTimely := by
    have nothing : (Worker.fresh (α := α)).IsTimely := by simp [Worker.IsTimely, Worker.fresh]
    have done := nothing.takeAll queue.interval (mode.discardsFrom moment) (queue.paced paces)
    rw [shutdown]
    cases last with
    | none => exact done
    | some last => exact done.perform last.1 last.2
  refine ⟨before.length, ?_, ?_, ?_, ?_, timely⟩
  · rw [asked, whole]
    simp
  · have beforeAll : before.filter (Worker.isLetThrough (mode.discardsFrom moment)) = before :=
      List.filter_eq_self.mpr passed
    have afterKept : after.filter (Worker.isLetThrough (mode.discardsFrom moment)) =
        after.filter (·.1.always) := by
      apply List.filter_congr
      intro entry member
      rw [Worker.isLetThrough, caught entry member, Bool.not_true, Bool.or_false]
    rw [shutdown, ran_finish, Worker.ran_takeAll, asked, whole, List.filter_append, beforeAll,
      afterKept]
    have split : (before ++ after).map (·.1) = before.map (·.1) ++ after.map (·.1) :=
      List.map_append
    rw [split, ← before.length_map (·.1), List.take_left, List.drop_left]
    simp [Worker.fresh, Task.map_body_discard, List.filter_map, Function.comp_def]
  · rw [asked, whole, List.take_left]
    intro entry member ordinary
    have through := passed entry member
    rw [Worker.isLetThrough, ordinary, Bool.false_or, Bool.not_eq_true'] at through
    exact through
  · rw [asked, whole, List.drop_left]
    exact fun entry member _ => caught entry member

/-- Of tasks queued in any order, the worker runs those that it has come to before the
queue discards, of the others those that always run, and then the last task. Nothing
is run twice or out of order, and nothing after the queue has been shut down. A queue
that is drained runs everything; one that is given up has no last task. -/
theorem enqueueAll_served (interval : Nat) (tasks : List (Task α)) (mode : Shutdown)
    (moment : Nat) (paces : Nat → Pace) (last : Option (α × Pace)) :
    let queue := (opened interval).enqueueAll tasks
    let worker := queue.shutdown mode moment paces last
    (queue.asked mode moment paces).map (·.1) = tasks ∧
      (∃ count, worker.HasServed (mode.discardsFrom moment) (queue.asked mode moment paces)
        (last.map (·.1)) count) ∧
      (worker.ran.map (·.body)).Sublist (tasks.map (·.body) ++ (last.map (·.1)).toList) ∧
      (mode = .drain →
        worker.ran.map (·.body) = tasks.map (·.body) ++ (last.map (·.1)).toList) ∧
      ∃ count, (queue.drop moment paces).HasServed (some moment)
        (queue.asked .discard moment paces) none count := by
  intro queue worker
  have queued : queue.tasks = tasks := by
    rw [show queue = _ from enqueueAll_of_isOpen rfl tasks]
    rfl
  have whole : (queue.asked mode moment paces).map (·.1) = tasks := by
    rw [asked, Worker.map_asked, map_paced, queued]
  rcases queue.shutdown_hasServed mode moment paces last with ⟨count, served⟩
  have ran := served.ran
  rw [whole, List.map_append, Task.map_body_discard, ← List.append_assoc, ← List.map_append] at ran
  refine ⟨whole, ⟨count, served⟩, ?_, ?_, queue.shutdown_hasServed .discard moment paces none⟩
  · rw [ran]
    refine .append (.map _ ?_) (.refl _)
    have kept := (List.filter_sublist (p := (·.always)) (l := tasks.drop count)).append_left
      (tasks.take count)
    rw [List.take_append_drop] at kept
    exact kept
  · rintro rfl
    -- A queue that never discards lets every ordinary task through.
    have allKept : (tasks.drop count).filter (·.always) = tasks.drop count := by
      rw [List.filter_eq_self, ← whole, ← List.map_drop, List.forall_mem_map]
      intro entry member
      cases kind : entry.1.always with
      | true => rfl
      | false => cases served.caught entry member kind
    rw [ran, allKept, List.take_append_drop]

/-- The queue begins to discard while its first task runs. -/
example :
    let queue := (opened 5).enqueueAll [.ordinary 0, .kept 1, .ordinary 2]
    let worker := queue.shutdown .discard 1 (fun _ => { work := 2 }) (some (3, .instant))
    worker.ran.map (·.body) = [0, 1, 3] := by decide

end DispatchQueue

end ReceiverLog
