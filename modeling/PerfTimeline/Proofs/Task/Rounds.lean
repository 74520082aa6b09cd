import PerfTimeline.Task.Executor

/-!
# Tasks run in rounds

A task that yields `k` times runs in round `k`: those that do not yield run in round zero, in the order of the
queue, and meanwhile each of the others moves behind all tasks of its next round. So no poll changes the order
in which tasks will have run in the end (`outlook_poll`), and it is known before the first poll (`ran_run`).
Background tasks yield once and all others never, which puts them into the last two rounds.
-/

namespace PerfTimeline

/-- The labels of the tasks of some of the priorities `ps`, labelled from `first` on. -/
def Priority.labels (shown : Priority → Bool) (first : Nat) (ps : List Priority) : List Nat :=
  ((ps.zipIdx first).filter fun x => shown x.1).map (·.2)

/-- Each task is either shown or not. -/
theorem Priority.labels_perm (shown : Priority → Bool) (first : Nat) (ps : List Priority) :
    (labels (!shown ·) first ps ++ labels shown first ps).Perm (List.range' first ps.length) := by
  rw [labels, labels, ← List.map_append, ← List.zipIdx_map_snd]
  refine .map _ (List.perm_append_comm.trans ?_)
  exact List.filter_append_perm (fun x : Priority × Nat => shown x.1) (ps.zipIdx first)

namespace Executor

/-- The tasks that still yield `k` times. -/
def round (ready : List ReadyTask) (k : Nat) : List Nat :=
  (ready.filter (·.yields = k)).map (·.label)

/-- The first `n` rounds, one behind the other. -/
def rounds (ready : List ReadyTask) (n : Nat) : List Nat := (List.range n).flatMap (round ready)

/-! ### One poll -/

theorem rounds_succ (ready : List ReadyTask) (n : Nat) :
    rounds ready (n + 1) = rounds ready n ++ round ready n := by
  simp [rounds, List.range_succ]

theorem rounds_nil (n : Nat) : rounds [] n = [] := by
  simp [rounds, round]

/-- A task that does not yield is the first of all. -/
theorem rounds_cons_of_zero {task : ReadyTask} (h : task.yields = 0) (rest : List ReadyTask) {n : Nat}
    (hn : 0 < n) : rounds (task :: rest) n = task.label :: rounds rest n := by
  induction n with
  | zero => omega
  | succ n ih =>
    rw [rounds_succ, rounds_succ]
    rcases Nat.eq_zero_or_pos n with rfl | hpos
    · simp [rounds, round, h]
    · have hlater : round (task :: rest) n = round rest n := by
        simp [round, h, show 0 ≠ n by omega]
      rw [ih hpos, hlater, List.cons_append]

theorem round_yield_of_ne {k i : Nat} (hk : k ≠ i) (hk' : k + 1 ≠ i) (label : Nat) (rest : List ReadyTask) :
    round (rest ++ [⟨label, k⟩]) i = round (⟨label, k + 1⟩ :: rest) i := by
  simp [round, hk, hk']

theorem rounds_yield_of_le {k n : Nat} (hn : n ≤ k) (label : Nat) (rest : List ReadyTask) :
    rounds (rest ++ [⟨label, k⟩]) n = rounds (⟨label, k + 1⟩ :: rest) n := by
  induction n with
  | zero => rfl
  | succ n ih =>
    rw [rounds_succ, rounds_succ, ih (by omega), round_yield_of_ne (by omega) (by omega)]

/-- A task that yields was the first of its round and becomes the last of the round before. -/
theorem rounds_yield {k n : Nat} (hn : k + 1 < n) (label : Nat) (rest : List ReadyTask) :
    rounds (rest ++ [⟨label, k⟩]) n = rounds (⟨label, k + 1⟩ :: rest) n := by
  induction hn with
  | refl =>
    have hlast : round (rest ++ [⟨label, k⟩]) k = round rest k ++ [label] := by simp [round]
    have hfirst : round (⟨label, k + 1⟩ :: rest) (k + 1) = label :: round rest (k + 1) := by simp [round]
    have hgone : round (rest ++ [⟨label, k⟩]) (k + 1) = round rest (k + 1) := by simp [round]
    have hnot : round (⟨label, k + 1⟩ :: rest) k = round rest k := by simp [round]
    rw [rounds_succ, rounds_succ, rounds_succ, rounds_succ, rounds_yield_of_le (Nat.le_refl k), hlast, hgone,
      hnot, hfirst]
    simp
  | @step n hn ih =>
    have hlt : k + 1 < n := hn
    rw [rounds_succ, rounds_succ, ih, round_yield_of_ne (by omega) (by omega)]

section Poll

variable {x : Executor} {task : ReadyTask} {rest : List ReadyTask} {n : Nat}

theorem yields_poll_lt (h : x.ready = task :: rest) (hn : ∀ t ∈ x.ready, t.yields < n) :
    ∀ t ∈ (x.poll task rest).ready, t.yields < n := by
  rw [h] at hn
  obtain ⟨htask, hrest⟩ := List.forall_mem_cons.mp hn
  unfold poll
  cases hy : task.yields with
  | zero => exact hrest
  | succ k =>
    have hagain : k < n := by omega
    exact List.forall_mem_append.mpr ⟨hrest, List.forall_mem_singleton.mpr hagain⟩

/-- What has run and what is still to run, in this order, stays the same with each poll. -/
theorem outlook_poll (h : x.ready = task :: rest) (hn : ∀ t ∈ x.ready, t.yields < n) :
    (x.poll task rest).ran ++ rounds (x.poll task rest).ready n = x.ran ++ rounds x.ready n := by
  have htask : task.yields < n := hn task (h ▸ List.mem_cons_self)
  obtain ⟨label, yields⟩ := task
  rw [h]
  cases yields with
  | zero =>
    rw [rounds_cons_of_zero rfl rest htask]
    exact List.append_assoc x.ran [label] _
  | succ k => exact congrArg (x.ran ++ ·) (rounds_yield htask label rest)

end Poll

/-! ### Runs -/

/-- Tasks run by the number of times they yield, and in the order of the queue where this number is the same. -/
theorem ran_run {x : Executor} {n : Nat} (hn : ∀ t ∈ x.ready, t.yields < n) :
    x.run.ran = x.ran ++ rounds x.ready n := by
  fun_induction run x with
  | case1 x h => rw [h, rounds_nil, List.append_nil]
  | case2 x task rest h ih => rw [ih (yields_poll_lt h hn), outlook_poll h hn]

example : (Executor.mk [⟨7, 2⟩, ⟨5, 0⟩, ⟨6, 1⟩, ⟨4, 0⟩] []).run.ran = [5, 4, 6, 7] := by
  rw [ran_run (n := 3) (by decide)]
  rfl

theorem ran_scheduleAll (x : Executor) (first : Nat) (ps : List Priority) :
    (x.scheduleAll first ps).ran = x.ran := by
  induction ps generalizing x first with
  | nil => rfl
  | cons p ps ih => exact ih (x.schedule p first) (first + 1)

theorem ready_scheduleAll (x : Executor) (first : Nat) (ps : List Priority) :
    (x.scheduleAll first ps).ready =
      x.ready ++ (ps.zipIdx first).map fun q => ⟨q.2, if q.1.isBackground then 1 else 0⟩ := by
  induction ps generalizing x first with
  | nil => exact (List.append_nil x.ready).symm
  | cons p ps ih =>
    rw [scheduleAll, ih, schedule, List.zipIdx_cons, List.map_cons]
    exact List.append_assoc x.ready [_] _

theorem yields_scheduleAll_lt (first : Nat) (ps : List Priority) :
    ∀ t ∈ (({} : Executor).scheduleAll first ps).ready, t.yields < 2 := by
  rw [ready_scheduleAll]
  intro t ht
  obtain ⟨q, -, rfl⟩ := List.mem_map.mp ht
  show (if q.1.isBackground then 1 else 0) < 2
  split <;> omega

theorem rounds_scheduleAll (first : Nat) (ps : List Priority) :
    rounds (({} : Executor).scheduleAll first ps).ready 2 =
      Priority.labels (!·.isBackground) first ps ++ Priority.labels (·.isBackground) first ps := by
  have hround (k : Nat) (shown : Priority → Bool)
      (hshown : ∀ p, shown p = decide ((if p.isBackground then 1 else 0) = k)) :
      round (({} : Executor).scheduleAll first ps).ready k = Priority.labels shown first ps := by
    simp only [ready_scheduleAll, round, Priority.labels, hshown]
    show ((([] : List ReadyTask) ++ _).filter _).map _ = _
    rw [List.nil_append, List.filter_map, List.map_map]
    rfl
  rw [rounds_succ, rounds_succ,
    hround 0 (!·.isBackground) fun p => by cases p <;> rfl,
    hround 1 (·.isBackground) fun p => by cases p <;> rfl]
  rfl

/-- Tasks that are handed over before the executor gets to run wait for that. Each of them runs once then: first
those of foreground priorities in the order they were handed over, and after all of these the others. -/
theorem foreground_first (first : Nat) (ps : List Priority) :
    (∀ k, (({} : Executor).scheduleAll first (ps.take k)).ran = []) ∧
      (({} : Executor).scheduleAll first ps).run.ready = [] ∧
      (({} : Executor).scheduleAll first ps).run.ran.Perm (List.range' first ps.length) ∧
      (({} : Executor).scheduleAll first ps).run.ran =
        Priority.labels (· ∈ [.immediate, .userBlocking, .normal]) first ps ++
          Priority.labels (· ∈ [.low, .idle]) first ps := by
  have hran : (({} : Executor).scheduleAll first ps).run.ran =
      Priority.labels (!·.isBackground) first ps ++ Priority.labels (·.isBackground) first ps := by
    rw [ran_run (yields_scheduleAll_lt first ps), ran_scheduleAll, rounds_scheduleAll]
    rfl
  refine ⟨fun k => ran_scheduleAll _ _ _, ready_run _, ?_, ?_⟩
  · rw [hran]
    exact Priority.labels_perm _ first ps
  · simp only [hran, ← Priority.isBackground_iff, ← Priority.not_isBackground_iff, Bool.decide_eq_false,
      Bool.decide_eq_true]

end Executor

end PerfTimeline
