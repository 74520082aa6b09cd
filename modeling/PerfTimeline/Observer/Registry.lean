/-!
# Registries

A registry lists the observers that are offered new entries, in order of registration. It does not keep an
observer alive: observers that have died stay listed until the next change or delivery prunes them. Which
observers are alive is told by a predicate.
-/

namespace PerfTimeline

/-- An observer's number, in order of creation. -/
abbrev ObserverId := Nat

/-- Registered observers, dead ones not yet pruned included. -/
abbrev Registry := List ObserverId

namespace Registry

/-- Leave out the dead. -/
def prune (live : ObserverId → Bool) (r : Registry) : Registry := r.filter live

/-- Register an observer behind the others. One that is listed already keeps its place, and nothing is
pruned then. -/
def register (live : ObserverId → Bool) (o : ObserverId) (r : Registry) : Registry :=
  if r.contains o then r else r.prune live ++ [o]

/-- Remove an observer, and the dead. -/
def unregister (live : ObserverId → Bool) (o : ObserverId) (r : Registry) : Registry :=
  (r.prune live).filter (· != o)

theorem mem_prune {live : ObserverId → Bool} {r : Registry} {o : ObserverId} :
    o ∈ r.prune live ↔ o ∈ r ∧ live o = true := by
  simp [prune]

theorem mem_register_self (live : ObserverId → Bool) (o : ObserverId) (r : Registry) :
    o ∈ r.register live o := by
  unfold register
  split
  · rename_i h; simpa using h
  · simp

theorem not_mem_unregister_self (live : ObserverId → Bool) (o : ObserverId) (r : Registry) :
    o ∉ r.unregister live o := by
  simp [unregister]

theorem nodup_prune {r : Registry} (h : r.Nodup) (live : ObserverId → Bool) : (r.prune live).Nodup :=
  h.filter _

/-- No observer is listed twice by being registered again. -/
theorem nodup_register {r : Registry} (h : r.Nodup) (live : ObserverId → Bool) (o : ObserverId) :
    (r.register live o).Nodup := by
  unfold register
  split
  · exact h
  · rename_i ho
    have ho : o ∉ r.prune live := fun hm => ho (by simpa using (mem_prune.mp hm).1)
    rw [List.nodup_append]
    refine ⟨nodup_prune h live, by simp, ?_⟩
    intro a ha b hb
    rw [List.mem_singleton.mp hb]
    exact fun hab => ho (hab ▸ ha)

theorem nodup_unregister {r : Registry} (h : r.Nodup) (live : ObserverId → Bool) (o : ObserverId) :
    (r.unregister live o).Nodup :=
  (nodup_prune h live).filter _

end Registry

end PerfTimeline
