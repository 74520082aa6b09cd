/-!
# Event counts

How often each event name occurred: a list of names with their counts, in ascending order of names, code
point by code point.
-/

namespace PerfTimeline

/-- Names with the number of their occurrences, sorted by name. -/
abbrev EventCounts := List (String × Nat)

namespace EventCounts

/-- Count one more occurrence of a name. -/
def bump (name : String) : EventCounts → EventCounts
  | [] => [(name, 1)]
  | (n, k) :: rest =>
    if name = n then (n, k + 1) :: rest
    else if name < n then (name, 1) :: (n, k) :: rest
    else (n, k) :: bump name rest

/-- The number of occurrences of a name. -/
def count (name : String) : EventCounts → Nat
  | [] => 0
  | (n, k) :: rest => if name = n then k else count name rest

/-- The names ascend, so that each stands once. -/
def Ascending (cs : EventCounts) : Prop := cs.Pairwise fun a b => a.1 < b.1

theorem mem_bump {name : String} {cs : EventCounts} {c : String × Nat} (h : c ∈ cs.bump name) :
    c.1 = name ∨ c ∈ cs := by
  induction cs with
  | nil => exact .inl (by rw [List.mem_singleton.mp h])
  | cons d rest ih =>
    obtain ⟨n, k⟩ := d
    unfold bump at h
    split at h
    · rename_i hn
      cases List.mem_cons.mp h with
      | inl he => exact .inl (by rw [he, hn])
      | inr hr => exact .inr (List.mem_cons_of_mem _ hr)
    · split at h
      · cases List.mem_cons.mp h with
        | inl he => exact .inl (by rw [he])
        | inr hr => exact .inr hr
      · cases List.mem_cons.mp h with
        | inl he => exact .inr (by rw [he]; exact List.mem_cons_self)
        | inr hr => exact (ih hr).imp id (List.mem_cons_of_mem _)

/-- Counting keeps the order of names. -/
theorem ascending_bump {cs : EventCounts} (h : cs.Ascending) (name : String) :
    (cs.bump name).Ascending := by
  unfold Ascending at *
  induction cs with
  | nil => simp [bump]
  | cons d rest ih =>
    obtain ⟨n, k⟩ := d
    obtain ⟨hfirst, hrest⟩ := List.pairwise_cons.mp h
    unfold bump
    split
    · exact List.pairwise_cons.mpr ⟨hfirst, hrest⟩
    · rename_i hne
      split
      · rename_i hlt
        refine List.pairwise_cons.mpr ⟨?_, h⟩
        intro c hc
        cases List.mem_cons.mp hc with
        | inl he => rw [he]; exact hlt
        | inr hr => exact String.lt_trans hlt (hfirst c hr)
      · rename_i hnlt
        refine List.pairwise_cons.mpr ⟨?_, ih hrest⟩
        intro c hc
        cases mem_bump hc with
        | inl he =>
          rw [he]
          exact Std.lt_of_le_of_ne (String.not_lt.mp hnlt) (Ne.symm hne)
        | inr hr => exact hfirst c hr

theorem count_eq_zero {name : String} {cs : EventCounts} (h : ∀ c ∈ cs, name ≠ c.1) :
    cs.count name = 0 := by
  induction cs with
  | nil => rfl
  | cons d rest ih =>
    obtain ⟨n, k⟩ := d
    have hn : name ≠ n := h (n, k) List.mem_cons_self
    simp only [count, hn, if_false]
    exact ih fun c hc => h c (List.mem_cons_of_mem _ hc)

theorem count_bump_self {cs : EventCounts} (h : cs.Ascending) (name : String) :
    (cs.bump name).count name = cs.count name + 1 := by
  unfold Ascending at h
  induction cs with
  | nil => simp [bump, count]
  | cons d rest ih =>
    obtain ⟨n, k⟩ := d
    obtain ⟨hfirst, hrest⟩ := List.pairwise_cons.mp h
    by_cases hn : name = n
    · simp [bump, count, hn]
    · by_cases hlt : name < n
      · have hzero : EventCounts.count name rest = 0 := count_eq_zero fun c hc he =>
          String.lt_irrefl c.1 (String.lt_trans (he ▸ hlt) (hfirst c hc))
        simp [bump, count, hn, hlt, hzero]
      · simp [bump, count, hn, hlt, ih hrest]

theorem count_bump_of_ne {name other : String} (h : other ≠ name) (cs : EventCounts) :
    (cs.bump name).count other = cs.count other := by
  induction cs with
  | nil => simp [bump, count, h]
  | cons d rest ih =>
    obtain ⟨n, k⟩ := d
    by_cases hn : name = n
    · subst hn; simp [bump, count, h]
    · by_cases hlt : name < n
      · simp [bump, count, hn, hlt, h]
      · simp [bump, count, hn, hlt, ih]

end EventCounts

end PerfTimeline
