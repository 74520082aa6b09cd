import PerfTimeline.Observer.Registry

/-!
# Registries and the calls they have seen

What a registry lists can be told from the calls made to it, up to the dead: an observer is listed if it was
registered and has not been removed since, and observers are listed in the order in which they were registered.
To register one that is listed counts for nothing. `Orderly` says so, and each call keeps it (`Orderly.serve`).
-/

namespace PerfTimeline.Registry

/-- What a registry can be called for. -/
inductive Call where
  | register (o : ObserverId)
  | unregister (o : ObserverId)
  | fanOut
deriving DecidableEq

/-- Whether a call is about `o`. -/
def Call.names (o : ObserverId) : Call → Bool
  | register p => p == o
  | unregister p => p == o
  | fanOut => false

/-- What a registry is after a call. -/
def serve (live : ObserverId → Bool) (r : Registry) : Call → Registry
  | .register o => r.register live o
  | .unregister o => r.unregister live o
  | .fanOut => r.prune live

/-- When `o` was registered, if it has not been removed since: the number of calls before. The calls are given
from the last to the first. -/
def registeredAt (o : ObserverId) : List Call → Option Nat
  | [] => none
  | .register p :: calls =>
    if p = o then some ((registeredAt o calls).getD calls.length) else registeredAt o calls
  | .unregister p :: calls => if p = o then none else registeredAt o calls
  | .fanOut :: calls => registeredAt o calls

/-- `o` was registered before `p`, and neither has been removed since. -/
def Precedes (calls : List Call) (o p : ObserverId) : Prop :=
  ∃ m n, registeredAt o calls = some m ∧ registeredAt p calls = some n ∧ m < n

/-- What a call makes of a registry. To register a listed observer again changes nothing; any other call drops
the dead and leaves the others that it is not about in their order. -/
structure Served (live : ObserverId → Bool) (call : Call) (r r' : Registry) : Prop where
  again (o : ObserverId) (hc : call = .register o) (ho : o ∈ r) : r' = r
  pruned (hnew : ∀ o, call = .register o → o ∉ r) : ∀ o ∈ r', live o = true
  kept (hnew : ∀ o, call = .register o → o ∉ r) :
    (r'.filter fun o => !call.names o) = r.filter fun o => live o && !call.names o

/-- A registry as it follows from the calls that it has seen. -/
structure Orderly (live : ObserverId → Bool) (calls : List Call) (r : Registry) : Prop where
  nodup : r.Nodup
  mem (o : ObserverId) (h : live o = true) : o ∈ r ↔ (registeredAt o calls).isSome
  ordered : (r.filter live).Pairwise (Precedes calls)

variable {live live' : ObserverId → Bool} {calls : List Call} {call : Call} {r : Registry}
  {o p : ObserverId}

theorem registeredAt_lt {n : Nat} (h : registeredAt o calls = some n) : n < calls.length := by
  induction calls generalizing n with
  | nil => cases h
  | cons call calls ih =>
    rw [List.length_cons]
    cases call with
    | register p =>
      rw [registeredAt] at h
      split at h
      · obtain rfl := Option.some.inj h
        cases hr : registeredAt o calls with
        | none => exact Nat.lt_succ_self _
        | some m => exact Nat.lt_succ_of_lt (ih hr)
      · exact Nat.lt_succ_of_lt (ih h)
    | unregister p =>
      rw [registeredAt] at h
      split at h
      · cases h
      · exact Nat.lt_succ_of_lt (ih h)
    | fanOut => exact Nat.lt_succ_of_lt (ih h)

theorem registeredAt_of_not_names (h : call.names o = false) :
    registeredAt o (call :: calls) = registeredAt o calls := by
  cases call with
  | register p => rw [registeredAt, if_neg (by simpa [Call.names] using h)]
  | unregister p => rw [registeredAt, if_neg (by simpa [Call.names] using h)]
  | fanOut => rfl

theorem registeredAt_register_of_isSome (h : (registeredAt p calls).isSome) (o : ObserverId) :
    registeredAt o (.register p :: calls) = registeredAt o calls := by
  rw [registeredAt]
  split
  · rename_i hp
    subst hp
    obtain ⟨n, hn⟩ := Option.isSome_iff_exists.mp h
    rw [hn]
    rfl
  · rfl

/-- Registered once more, an observer keeps its place and nothing is pruned. -/
theorem serve_register_of_mem (h : o ∈ r) : r.serve live (.register o) = r :=
  if_pos (by simpa using h)

theorem serve_register_of_not_mem (h : o ∉ r) : r.serve live (.register o) = r.prune live ++ [o] :=
  if_neg (by simpa using h)

theorem serve_unregister (o : ObserverId) :
    r.serve live (.unregister o) = (r.filter live).filter (· != o) := rfl

theorem mem_of_mem_register (h : o ∈ r.register live p) : o ∈ r ∨ o = p := by
  unfold register at h
  split at h
  · exact .inl h
  · rcases List.mem_append.mp h with h | h
    · exact .inl (mem_prune.mp h).1
    · exact .inr (List.mem_singleton.mp h)

theorem mem_of_mem_unregister (h : o ∈ r.unregister live p) : o ∈ r :=
  (mem_prune.mp (List.mem_filter.mp h).1).1

/-- A call lists no one but whom it registers. -/
theorem mem_of_mem_serve (h : o ∈ r.serve live call) : o ∈ r ∨ call = .register o := by
  cases call with
  | fanOut => exact .inl (mem_prune.mp h).1
  | unregister p => exact .inl (mem_of_mem_unregister h)
  | register p => exact (mem_of_mem_register h).imp_right fun hp => congrArg Call.register hp.symm

theorem registered_of_cons (h : (registeredAt o (call :: calls)).isSome) :
    (registeredAt o calls).isSome ∨ call = .register o := by
  cases call with
  | fanOut => exact .inl h
  | unregister p =>
    rw [registeredAt] at h
    split at h
    · cases h
    · exact .inl h
  | register p =>
    by_cases hp : p = o
    · exact .inr (congrArg Call.register hp)
    · rw [registeredAt, if_neg hp] at h
      exact .inl h

theorem serve_served (call : Call) (hlive : ∀ o, call.names o = true → live o = true) :
    Served live call r (r.serve live call) := by
  cases call with
  | fanOut =>
    refine ⟨by simp, fun _ o ho => (mem_prune.mp ho).2, fun _ => ?_⟩
    rw [serve, prune, List.filter_filter]
    simp [Call.names, Bool.and_comm]
  | unregister p =>
    refine ⟨by simp, fun _ o ho => (List.mem_filter.mp (List.mem_filter.mp ho).1).2, fun _ => ?_⟩
    rw [serve_unregister, List.filter_filter, List.filter_filter]
    refine List.filter_congr fun o _ => ?_
    by_cases ho : o = p
    · simp [Call.names, ho]
    · have hpo : (p == o) = false := beq_eq_false_iff_ne.mpr (Ne.symm ho)
      have hop : (o != p) = true := bne_iff_ne.mpr ho
      simp [Call.names, hpo, hop]
  | register p =>
    have hp : live p = true := hlive p (by simp [Call.names])
    refine ⟨fun o hc ho => ?_, fun hnew o ho => ?_, fun hnew => ?_⟩
    · exact serve_register_of_mem (Call.register.inj hc ▸ ho)
    · rw [serve_register_of_not_mem (hnew p rfl)] at ho
      rcases List.mem_append.mp ho with ho | ho
      · exact (mem_prune.mp ho).2
      · exact List.mem_singleton.mp ho ▸ hp
    · rw [serve_register_of_not_mem (hnew p rfl), List.filter_append, prune, List.filter_filter]
      simp [Call.names, Bool.and_comm]

namespace Orderly

theorem nil (live : ObserverId → Bool) : Orderly live [] [] := ⟨List.nodup_nil, by simp [registeredAt], .nil⟩

theorem precedes_mono {calls' : List Call} {os : List ObserverId}
    (h : os.Pairwise (Precedes calls)) (hsame : ∀ o ∈ os, registeredAt o calls' = registeredAt o calls) :
    os.Pairwise (Precedes calls') := by
  refine h.imp_of_mem fun {a b} ha hb hab => ?_
  obtain ⟨m, n, hm, hn, hlt⟩ := hab
  exact ⟨m, n, (hsame a ha).trans hm, (hsame b hb).trans hn, hlt⟩

/-- A call that is made by living observers keeps a registry orderly. -/
theorem serve (h : Orderly live calls r) (call : Call) (hlive : ∀ o, call.names o = true → live o = true) :
    Orderly live (call :: calls) (r.serve live call) := by
  cases call with
  | fanOut =>
    refine ⟨nodup_prune h.nodup live, fun o ho => ?_, ?_⟩
    · exact (mem_prune.trans (and_iff_left ho)).trans (h.mem o ho)
    · have hpruned : (r.prune live).filter live = r.filter live := by simp [prune]
      rw [Registry.serve, hpruned]
      exact precedes_mono h.ordered fun _ _ => rfl
  | unregister p =>
    refine ⟨nodup_unregister h.nodup live p, fun o ho => ?_, ?_⟩
    · rw [serve_unregister, List.mem_filter, List.mem_filter, registeredAt]
      by_cases hp : p = o
      · simp [hp]
      · simp [ho, hp, Ne.symm hp, h.mem o ho]
    · rw [serve_unregister]
      have hleft : (((r.filter live).filter (· != p)).filter live).Sublist (r.filter live) :=
        List.filter_sublist.trans List.filter_sublist
      refine precedes_mono (h.ordered.sublist hleft) fun o ho => ?_
      have hne : o ≠ p := by simpa using (List.mem_filter.mp (List.mem_filter.mp ho).1).2
      exact registeredAt_of_not_names (by simp [Call.names, Ne.symm hne])
  | register p =>
    have hp : live p = true := hlive p (by simp [Call.names])
    by_cases hm : p ∈ r
    · have hsame := registeredAt_register_of_isSome ((h.mem p hp).mp hm)
      rw [serve_register_of_mem hm]
      refine ⟨h.nodup, fun o ho => ?_, precedes_mono h.ordered fun o _ => hsame o⟩
      rw [hsame]
      exact h.mem o ho
    · have hnone : registeredAt p calls = none :=
        Option.not_isSome_iff_eq_none.mp fun hsome => hm ((h.mem p hp).mpr hsome)
      have hnew : registeredAt p (.register p :: calls) = some calls.length := by
        rw [registeredAt, if_pos rfl, hnone]
        rfl
      have hold {o : ObserverId} (ho : o ≠ p) :
          registeredAt o (.register p :: calls) = registeredAt o calls :=
        registeredAt_of_not_names (by simp [Call.names, Ne.symm ho])
      refine ⟨nodup_register h.nodup live p, fun o ho => ?_, ?_⟩
      · rw [serve_register_of_not_mem hm, List.mem_append, mem_prune, List.mem_singleton]
        by_cases hop : o = p
        · subst hop
          simp [hnew]
        · simp [hold hop, hop, ho, h.mem o ho]
      · have hlisted : (r.prune live ++ [p]).filter live = r.filter live ++ [p] := by
          simp [prune, hp]
        rw [serve_register_of_not_mem hm, hlisted, List.pairwise_append]
        have hne {o : ObserverId} (ho : o ∈ r.filter live) : o ≠ p := fun hop =>
          hm (hop ▸ (List.mem_filter.mp ho).1)
        refine ⟨precedes_mono h.ordered fun o ho => hold (hne ho), List.pairwise_singleton .., ?_⟩
        intro o ho q hq
        obtain rfl := List.mem_singleton.mp hq
        obtain ⟨hmem, hlo⟩ := List.mem_filter.mp ho
        obtain ⟨n, hn⟩ := Option.isSome_iff_exists.mp ((h.mem o hlo).mp hmem)
        exact ⟨n, calls.length, (hold (hne ho)).trans hn, hnew, registeredAt_lt hn⟩

/-- Observers die, and those that come to life have not been registered before. -/
theorem age (h : Orderly live calls r)
    (hlive : ∀ o, live' o = true → live o = true ∨ o ∉ r ∧ registeredAt o calls = none) :
    Orderly live' calls r := by
  refine ⟨h.nodup, fun o ho => ?_, ?_⟩
  · rcases hlive o ho with hl | ⟨hnot, hnone⟩
    · exact h.mem o hl
    · simp [hnot, hnone]
  · have hleft : r.filter live' = (r.filter live).filter live' := by
      rw [List.filter_filter]
      refine List.filter_congr fun o hm => ?_
      cases hl' : live' o with
      | false => rfl
      | true =>
        rcases hlive o hl' with hl | ⟨hnot, -⟩
        · rw [hl]
          rfl
        · exact absurd hm hnot
    rw [hleft]
    exact h.ordered.sublist List.filter_sublist

/-- After a fan-out as many are listed as are alive and registered. -/
theorem length_prune (h : Orderly live calls r) {n : Nat} (hn : ∀ o, live o = true → o < n) :
    (r.prune live).length = (List.range n).countP fun o => live o && (registeredAt o calls).isSome := by
  rw [List.countP_eq_length_filter]
  refine List.Perm.length_eq ?_
  refine (List.perm_ext_iff_of_nodup (nodup_prune h.nodup live) (List.nodup_range.filter _)).mpr fun o => ?_
  rw [mem_prune, List.mem_filter, List.mem_range, Bool.and_eq_true]
  constructor
  · rintro ⟨hm, hl⟩
    exact ⟨hn o hl, hl, (h.mem o hl).mp hm⟩
  · rintro ⟨-, hl, hsome⟩
    exact ⟨(h.mem o hl).mpr hsome, hl⟩

end Orderly

end PerfTimeline.Registry
