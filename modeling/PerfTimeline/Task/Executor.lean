import PerfTimeline.Task.Priority

/-!
# The executor

A cooperative executor polls its ready tasks one at a time, first in first out. A task that yields goes to
the back of the queue. A background task yields once before it runs, so that the work queued before the
executor gets to run goes first.
-/

namespace PerfTimeline

/-- A task that waits for its turn. -/
structure ReadyTask where
  /-- What tells the task apart. -/
  label : Nat
  /-- How often the task still yields before it runs. -/
  yields : Nat
deriving DecidableEq

/-- The ready tasks, in the order they are polled, and the labels of those that have run. -/
structure Executor where
  ready : List ReadyTask := []
  ran : List Nat := []
deriving DecidableEq

namespace Executor

/-- The executor of a thread is the one it entered last; a thread that entered none has none. -/
def current? (entered : List Executor) : Option Executor := entered.getLast?

/-- Hand over a task. It waits behind the others and does not run yet. -/
def schedule (x : Executor) (priority : Priority) (label : Nat) : Executor :=
  { x with ready := x.ready ++ [⟨label, if priority.isBackground then 1 else 0⟩] }

/-- Hand over one task for each priority, labelled from `first` on. -/
def scheduleAll (x : Executor) (first : Nat) : List Priority → Executor
  | [] => x
  | p :: rest => (x.schedule p first).scheduleAll (first + 1) rest

/-- Poll a task: it runs, or it yields and waits behind the others. -/
def poll (x : Executor) (task : ReadyTask) (rest : List ReadyTask) : Executor :=
  match task.yields with
  | 0 => { ready := rest, ran := x.ran ++ [task.label] }
  | n + 1 => { x with ready := rest ++ [⟨task.label, n⟩] }

/-- The number of polls that tasks still need. -/
def polls : List ReadyTask → Nat
  | [] => 0
  | task :: rest => task.yields + 1 + polls rest

theorem polls_append (a b : List ReadyTask) : polls (a ++ b) = polls a + polls b := by
  induction a with
  | nil => simp [polls]
  | cons task rest ih => simp only [List.cons_append, polls, ih]; omega

theorem polls_poll_lt (x : Executor) (task : ReadyTask) (rest : List ReadyTask)
    (h : x.ready = task :: rest) : polls (x.poll task rest).ready < polls x.ready := by
  cases task with | mk label yields =>
  cases yields with
  | zero => simp only [poll, h, polls]; omega
  | succ n => simp only [poll, h, polls, polls_append]; omega

/-- Poll until no task is left. -/
def run (x : Executor) : Executor :=
  match _h : x.ready with
  | [] => x
  | task :: rest => (x.poll task rest).run
termination_by polls x.ready
decreasing_by exact polls_poll_lt x task rest ‹_›

/-- An executor stops only when no task is left. -/
theorem ready_run (x : Executor) : x.run.ready = [] := by
  fun_induction run x with
  | case1 x h => exact h
  | case2 x task rest h ih => exact ih

end Executor

end PerfTimeline
