import Mathlib.Data.List.Chain
import ReceiverLog.Proofs.Dispatch.Discarding

namespace ReceiverLog

/-! How far apart a worker starts its tasks, on any clock that never goes back and on
which a sleep takes at least as long as was asked for. Time may pass wherever the worker
does not sleep, too. The moment at which a pause ends is recorded before the second
question is asked, so a task that is discarded behind its pause holds up the next one
as much as a task that runs. -/

/-! ## Pauses -/

def AreApart (interval earlier later : Nat) : Prop :=
  earlier + interval ≤ later

/-- Distances add up, so what is left out between two moments leaves them apart. -/
instance (interval : Nat) :
    Trans (AreApart interval) (AreApart interval) (AreApart interval) where
  trans := by
    intro first second third before after
    rw [AreApart] at before after ⊢
    omega

/-- A pause before a task: the moment at which the worker looks how long ago the latest
pause ended, the sleep that it asks for, and the moment that it records. -/
structure Pause where
  looked : Nat
  asked : Nat
  ended : Nat

namespace Pause

/-- What is missing from the interval at some moment. Before a first pause it is
nothing. -/
def missing (interval now : Nat) : Option Nat → Nat
  | none => 0
  | some previous => interval - (now - previous)

/-- A pause of a worker that begins at some moment or later. -/
structure IsMade (interval since : Nat) (lastRun : Option Nat) (pause : Pause) : Prop where
  looked : since ≤ pause.looked
  asked : pause.asked = missing interval pause.looked lastRun
  slept : pause.looked + pause.asked ≤ pause.ended

variable {interval since : Nat} {lastRun : Option Nat} {pause : Pause}

theorem IsMade.since_le (made : pause.IsMade interval since lastRun) : since ≤ pause.ended := by
  have looked := made.looked
  have slept := made.slept
  omega

theorem IsMade.areApart {previous : Nat} (before : previous ≤ since)
    (made : pause.IsMade interval since (some previous)) :
    AreApart interval previous pause.ended := by
  have looked := made.looked
  have slept := made.slept
  rw [made.asked, missing] at slept
  rw [AreApart]
  omega

theorem IsMade.asked_of_none (made : pause.IsMade interval since none) : pause.asked = 0 :=
  made.asked

end Pause

namespace Worker

variable {α : Type}

/-! ## Tasks on any clock -/

/-- What becomes of a worker by one task, and the pauses that it makes: none if the task
is discarded on receipt, and otherwise one, whether or not the task then runs. -/
inductive Takes (interval : Nat) (discardFrom : Option Nat) (worker : Worker α) (task : Task α) :
    List Pause → Worker α → Prop
  | refused {received : Nat} (ordinary : task.always = false) (later : worker.now ≤ received)
      (discarding : isDiscarding discardFrom received = true) :
      Takes interval discardFrom worker task [] { worker with now := received }
  | discarded {received ready : Nat} {pause : Pause} (ordinary : task.always = false)
      (later : worker.now ≤ received) (through : isDiscarding discardFrom received = false)
      (made : pause.IsMade interval received worker.lastRun) (reached : pause.ended ≤ ready)
      (discarding : isDiscarding discardFrom ready = true) :
      Takes interval discardFrom worker task [pause]
        { worker with now := ready, lastRun := some pause.ended }
  | ran {received ready done : Nat} {pause : Pause} (later : worker.now ≤ received)
      (made : pause.IsMade interval received worker.lastRun) (reached : pause.ended ≤ ready)
      (through : task.always = true ∨
        isDiscarding discardFrom received = false ∧ isDiscarding discardFrom ready = false)
      (worked : ready ≤ done) :
      Takes interval discardFrom worker task [pause]
        { now := done
          lastRun := some pause.ended
          ran := worker.ran ++ [{ body := task.body, moment := pause.ended }] }

inductive TakesAll (interval : Nat) (discardFrom : Option Nat) :
    Worker α → List (Task α) → List Pause → Worker α → Prop
  | nil (worker : Worker α) : TakesAll interval discardFrom worker [] [] worker
  | cons {worker next final : Worker α} {task : Task α} {tasks : List (Task α)}
      {made others : List Pause} (takes : Takes interval discardFrom worker task made next)
      (rest : TakesAll interval discardFrom next tasks others final) :
      TakesAll interval discardFrom worker (task :: tasks) (made ++ others) final

/-! ## Pauses keep their distance -/

/-- Neighbouring pauses lie the interval apart, the first is no sleep, and the tasks that
ran started at the ends of pauses. -/
structure IsThrottled (interval : Nat) (pauses : List Pause) (worker : Worker α) : Prop where
  latest : worker.lastRun = pauses.getLast?.map (·.ended)
  past : ∀ pause ∈ pauses, pause.ended ≤ worker.now
  apart : (pauses.map (·.ended)).IsChain (AreApart interval)
  undelayed : ∀ first ∈ pauses.head?, first.asked = 0
  starts : (worker.ran.map (·.moment)).Sublist (pauses.map (·.ended))

namespace IsThrottled

variable {interval : Nat} {discardFrom : Option Nat} {pauses : List Pause} {worker : Worker α}

theorem fresh : (Worker.fresh (α := α)).IsThrottled interval [] where
  latest := rfl
  past := by simp
  apart := .nil
  undelayed := by simp
  starts := .slnil

theorem wait (throttled : worker.IsThrottled interval pauses) {now : Nat}
    (later : worker.now ≤ now) : IsThrottled interval pauses { worker with now } where
  latest := throttled.latest
  past := fun pause member => Nat.le_trans (throttled.past pause member) later
  apart := throttled.apart
  undelayed := throttled.undelayed
  starts := throttled.starts

private theorem lastRun_le (throttled : worker.IsThrottled interval pauses) (previous : Nat)
    (isLatest : worker.lastRun = some previous) : previous ≤ worker.now := by
  rw [throttled.latest, Option.map_eq_some_iff] at isLatest
  rcases isLatest with ⟨pause, latest, rfl⟩
  exact throttled.past pause (List.mem_of_getLast? latest)

theorem start_le (throttled : worker.IsThrottled interval pauses) (start : Start α)
    (member : start ∈ worker.ran) : start.moment ≤ worker.now := by
  have started := throttled.starts.subset (List.mem_map_of_mem member)
  rcases List.mem_map.mp started with ⟨pause, among, equal⟩
  exact equal ▸ throttled.past pause among

theorem pause (throttled : worker.IsThrottled interval pauses) {received now : Nat}
    {pause : Pause} {ran : List (Start α)} (later : worker.now ≤ received)
    (made : pause.IsMade interval received worker.lastRun) (reached : pause.ended ≤ now)
    (starts : (ran.map (·.moment)).Sublist [pause.ended]) :
    IsThrottled interval (pauses ++ [pause])
      { now, lastRun := some pause.ended, ran := worker.ran ++ ran } where
  latest := by simp
  past := by
    have since := made.since_le
    rw [List.forall_mem_append, List.forall_mem_singleton]
    refine ⟨fun earlier member => ?_, reached⟩
    have past := throttled.past earlier member
    dsimp only
    omega
  apart := by
    rw [List.map_append]
    refine throttled.apart.append (.singleton pause.ended) ?_
    intro previous isLatest next isPause
    rw [List.map_singleton, List.head?_singleton, Option.mem_some_iff] at isPause
    subst isPause
    rw [List.getLast?_map, ← throttled.latest, Option.mem_def] at isLatest
    have past := throttled.lastRun_le previous isLatest
    rw [isLatest] at made
    exact made.areApart (Nat.le_trans past later)
  undelayed := by
    intro first isFirst
    cases pauses with
    | nil =>
        rw [List.nil_append, List.head?_singleton, Option.mem_some_iff] at isFirst
        subst isFirst
        rw [throttled.latest] at made
        exact made.asked_of_none
    | cons earlier pauses => exact throttled.undelayed first isFirst
  starts := by
    rw [List.map_append, List.map_append]
    exact throttled.starts.append starts

theorem takes (throttled : worker.IsThrottled interval pauses) {task : Task α}
    {made : List Pause} {next : Worker α}
    (takes : Takes interval discardFrom worker task made next) :
    next.IsThrottled interval (pauses ++ made) := by
  cases takes with
  | refused _ later _ =>
      rw [List.append_nil]
      exact throttled.wait later
  | discarded _ later _ made reached _ =>
      rw [← List.append_nil worker.ran]
      exact throttled.pause later made reached (List.nil_sublist _)
  | ran later made reached _ worked =>
      exact throttled.pause later made (Nat.le_trans reached worked) (.refl _)

theorem takesAll (throttled : worker.IsThrottled interval pauses) {tasks : List (Task α)}
    {others : List Pause} {final : Worker α}
    (takesAll : TakesAll interval discardFrom worker tasks others final) :
    final.IsThrottled interval (pauses ++ others) := by
  induction takesAll generalizing pauses with
  | nil worker => rwa [List.append_nil]
  | cons takes _ induction =>
      rw [← List.append_assoc]
      exact induction (throttled.takes takes)

end IsThrottled

/-! ## Starts keep their distance -/

private theorem isSpaced_of_isChain {interval : Nat} {starts : List (Start α)}
    (apart : (starts.map (·.moment)).IsChain (AreApart interval)) :
    isSpaced interval starts = true := by
  fun_induction isSpaced interval starts with
  | case1 first second rest induction =>
      rw [List.map_cons, List.map_cons, List.isChain_cons_cons] at apart
      rw [Bool.and_eq_true, decide_eq_true_eq]
      exact ⟨apart.1, induction apart.2⟩
  | case2 => rfl

theorem lasts_of_isSpaced {interval : Nat} {first last : Start α} {starts : List (Start α)}
    (spaced : isSpaced interval (first :: starts) = true)
    (isLast : last ∈ (first :: starts).getLast?) :
    first.moment + starts.length * interval ≤ last.moment := by
  induction starts generalizing first with
  | nil =>
      cases isLast
      simp
  | cons second starts induction =>
      rw [isSpaced, Bool.and_eq_true, decide_eq_true_eq] at spaced
      have later := induction spaced.2 isLast
      rw [List.length_cons, Nat.succ_mul]
      omega

theorem IsThrottled.isSpaced {interval : Nat} {pauses : List Pause} {worker : Worker α}
    (throttled : worker.IsThrottled interval pauses) :
    Worker.isSpaced interval worker.ran = true :=
  isSpaced_of_isChain (throttled.apart.sublist throttled.starts)

/-! ## The worker's own clock -/

private theorem missing_le_pauseEnd (interval oversleep now : Nat) (lastRun : Option Nat) :
    now + Pause.missing interval now lastRun ≤ pauseEnd interval oversleep now lastRun := by
  cases lastRun with
  | none => exact Nat.le_refl now
  | some previous =>
      rw [pauseEnd, Pause.missing]
      split <;> omega

def pauseBefore (interval : Nat) (worker : Worker α) (pace : Pace) : Pause where
  looked := worker.now + pace.arrival
  asked := Pause.missing interval (worker.now + pace.arrival) worker.lastRun
  ended := (worker.paused interval pace).now

theorem pauseBefore_isMade (worker : Worker α) (interval : Nat) (pace : Pace) :
    (worker.pauseBefore interval pace).IsMade interval (worker.now + pace.arrival)
      worker.lastRun where
  looked := Nat.le_refl _
  asked := rfl
  slept := missing_le_pauseEnd interval pace.oversleep _ _

theorem take_takes (interval : Nat) (discardFrom : Option Nat) (worker : Worker α)
    (task : Task α) (pace : Pace) :
    ∃ made, Takes interval discardFrom worker task made
      (worker.take interval discardFrom task pace) := by
  have later : worker.now ≤ worker.now + pace.arrival := Nat.le_add_right _ _
  have made := worker.pauseBefore_isMade interval pace
  have reached : (worker.pauseBefore interval pace).ended ≤
      (worker.pauseBefore interval pace).ended + pace.delay := Nat.le_add_right _ _
  rw [take]
  split
  · next refused =>
      rw [Bool.and_eq_true, Bool.not_eq_true'] at refused
      exact ⟨_, .refused refused.1 later refused.2⟩
  · next received =>
      split
      · next discarded =>
          rw [Bool.and_eq_true, Bool.not_eq_true'] at discarded
          have through : isDiscarding discardFrom (worker.now + pace.arrival) = false := by
            simpa [discarded.1, wait] using received
          exact ⟨_, .discarded discarded.1 later through made reached discarded.2⟩
      · next ready =>
          refine ⟨_, .ran later made reached ?_ (Nat.le_add_right _ _)⟩
          cases kind : task.always with
          | true => exact .inl rfl
          | false =>
              rw [kind, Bool.not_false, Bool.true_and, Bool.not_eq_true] at received ready
              exact .inr ⟨received, ready⟩

theorem takeAll_takesAll (interval : Nat) (discardFrom : Option Nat) (worker : Worker α)
    (tasks : List (Task α × Pace)) :
    ∃ made, TakesAll interval discardFrom worker (tasks.map (·.1)) made
      (worker.takeAll interval discardFrom tasks) := by
  induction tasks generalizing worker with
  | nil => exact ⟨[], .nil worker⟩
  | cons entry tasks induction =>
      rcases worker.take_takes interval discardFrom entry.1 entry.2 with ⟨made, takes⟩
      rcases induction (worker.take interval discardFrom entry.1 entry.2) with ⟨others, rest⟩
      exact ⟨made ++ others, .cons takes rest⟩

private theorem finish_eq_takeAll (interval : Nat) (discardFrom : Option Nat) (worker : Worker α)
    (last : Option (α × Pace)) :
    worker.finish interval last =
      worker.takeAll interval discardFrom
        (last.map fun entry => (Task.kept entry.1, entry.2)).toList := by
  cases last with
  | none => rfl
  | some entry => rfl

end Worker

namespace DispatchQueue

variable {α : Type}

theorem shutdown_takesAll (queue : DispatchQueue α) (mode : Shutdown) (moment : Nat)
    (paces : Nat → Pace) (last : Option (α × Pace)) :
    ∃ pauses, Worker.TakesAll queue.interval (mode.discardsFrom moment) .fresh
      (queue.tasks ++ (last.map (Task.kept ·.1)).toList) pauses
      (queue.shutdown mode moment paces last) := by
  have everything := Worker.fresh.takeAll_takesAll queue.interval (mode.discardsFrom moment)
    (queue.paced paces ++ (last.map fun entry => (Task.kept entry.1, entry.2)).toList)
  rw [List.map_append, map_paced] at everything
  rw [shutdown, Worker.finish_eq_takeAll _ (mode.discardsFrom moment)]
  cases last <;> simpa [Worker.takeAll, List.foldl_append] using everything

/-- Whatever tasks are queued, whenever the queue begins to discard and whatever the
clock shows, two pauses in a row end at least the interval apart, and the first of all
asks for no sleep. What runs starts at the ends of pauses, and so takes its time. Every
shutdown is such a run. -/
theorem pauses_apart (interval : Nat) (tasks : List (Task α)) (last : Option α) :
    let all := tasks ++ (last.map Task.kept).toList
    (∀ discardFrom pauses worker,
      Worker.TakesAll interval discardFrom .fresh all pauses worker →
        (pauses.map (·.ended)).IsChain (AreApart interval) ∧
        (∀ first ∈ pauses.head?, first.asked = 0) ∧
        (worker.ran.map (·.moment)).Sublist (pauses.map (·.ended)) ∧
        Worker.isSpaced interval worker.ran = true ∧
        ∀ first ∈ worker.ran.head?, ∀ latest ∈ worker.ran.getLast?,
          first.moment + (worker.ran.length - 1) * interval ≤ latest.moment ∧
            latest.moment ≤ worker.now) ∧
      ∀ mode moment paces pace, ∃ pauses,
        Worker.TakesAll interval (mode.discardsFrom moment) .fresh all pauses
          (((opened interval).enqueueAll tasks).shutdown mode moment paces
            (last.map (·, pace))) := by
  intro all
  constructor
  · intro discardFrom pauses worker takes
    have throttled := Worker.IsThrottled.fresh.takesAll takes
    have spaced := throttled.isSpaced
    refine ⟨throttled.apart, throttled.undelayed, throttled.starts, spaced, ?_⟩
    intro first isFirst latest isLatest
    cases ran : worker.ran with
    | nil => simp [ran] at isFirst
    | cons start starts =>
        rw [ran] at isFirst isLatest spaced
        cases isFirst
        refine ⟨Worker.lasts_of_isSpaced spaced isLatest, ?_⟩
        refine throttled.start_le latest ?_
        rw [ran]
        exact List.mem_of_mem_getLast? isLatest
  · intro mode moment paces pace
    have takes := shutdown_takesAll ((opened interval).enqueueAll tasks) mode moment paces
      (last.map (·, pace))
    rw [Option.map_map] at takes
    rw [enqueueAll_of_isOpen rfl tasks] at takes ⊢
    exact takes

/-- A task is discarded behind its pause, on a clock that is slow to show the end of a
sleep and goes on between its moments; the last task keeps the distance from that pause. -/
theorem pauses_apart_discarded :
    let tasks := [Task.ordinary 0, Task.ordinary 1]
    let pauses := [
      { looked := 2, asked := 0, ended := 3 }, { looked := 4, asked := 4, ended := 9 },
      { looked := 12, asked := 2, ended := 14 : Pause }]
    let worker : Worker Nat := {
      now := 15, lastRun := some 14
      ran := [{ body := 0, moment := 3 }, { body := 9, moment := 14 }] }
    Worker.TakesAll 5 (some 10) .fresh (tasks ++ (some (Task.kept 9)).toList) pauses worker ∧
      (pauses.map (·.ended)).IsChain (AreApart 5) ∧ Worker.isSpaced 5 worker.ran = true := by
  intro tasks pauses worker
  have takes : Worker.TakesAll 5 (some 10) .fresh (tasks ++ (some (Task.kept 9)).toList) pauses
      worker := by
    refine .cons (@Worker.Takes.ran _ _ _ _ _ 1 3 3 _ ?_ ⟨?_, rfl, ?_⟩ ?_ ?_ ?_) <|
      .cons (@Worker.Takes.discarded _ _ _ _ _ 3 11 _ rfl ?_ rfl ⟨?_, rfl, ?_⟩ ?_ rfl) <|
      .cons (@Worker.Takes.ran _ _ _ _ _ 12 14 15 _ ?_ ⟨?_, rfl, ?_⟩ ?_ ?_ ?_) (.nil _)
    all_goals decide
  have kept := (pauses_apart 5 tasks (some 9)).1 _ _ _ takes
  exact ⟨takes, kept.1, kept.2.2.2.1⟩

end DispatchQueue

end ReceiverLog
