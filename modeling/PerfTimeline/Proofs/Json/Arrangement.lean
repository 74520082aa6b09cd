import PerfTimeline.Proofs.Json.Members

/-!
# Members in another arrangement

The members of an object may come in any order, with others among them, and some of them may be missing.
`Arranged` says what then stands under the names that matter, and `demand` what becomes of a reader that needs
one of the missing members.
-/

namespace PerfTimeline.Json

variable {α β δ : Type}

/-- Each name of `own` stands among the members once at most, with the value it has there, and does not stand
among them if it is `omitted`. -/
structure Arranged (own : Named) (omitted : List String) (members : Named) : Prop where
  once : ∀ name ∈ own.map Prod.fst, (members.map Prod.fst).count name ≤ 1
  lookup : ∀ name ∈ own.map Prod.fst,
    members.lookup name = if name ∈ omitted then none else own.lookup name

theorem mem_of_lookup {members : Named} {name : String} {v : Value} (h : members.lookup name = some v) :
    name ∈ members.map Prod.fst := by
  by_cases hmem : name ∈ members.map Prod.fst
  · exact hmem
  · cases (lookup_of_not_mem hmem).symm.trans h

theorem not_mem_of_lookup {members : Named} {name : String} (h : members.lookup name = none) :
    name ∉ members.map Prod.fst := by
  intro hmem
  obtain ⟨m, hm, rfl⟩ := List.mem_map.mp hmem
  have hne := List.lookup_eq_none_iff.mp h m hm
  simp at hne

namespace Arranged

variable {own foreign members : Named} {omitted : List String}

theorem of_perm (hown : (own.map Prod.fst).Nodup) (hforeign : ∀ m ∈ foreign, m.1 ∉ own.map Prod.fst)
    (hperm : members.Perm (own.filter (·.1 ∉ omitted) ++ foreign)) : Arranged own omitted members := by
  have honce : ∀ name ∈ own.map Prod.fst, (members.map Prod.fst).count name ≤ 1 := by
    intro name hname
    have hkept : ((own.filter (·.1 ∉ omitted)).map Prod.fst).count name ≤ 1 :=
      List.nodup_iff_count.mp (nodup_filter _ hown) name
    have hnone : (foreign.map Prod.fst).count name = 0 := by
      refine List.count_eq_zero.mpr fun hmem => ?_
      obtain ⟨m, hm, rfl⟩ := List.mem_map.mp hmem
      exact hforeign m hm hname
    rw [(hperm.map Prod.fst).count_eq, List.map_append, List.count_append, hnone]
    exact hkept
  refine ⟨honce, fun name hname => ?_⟩
  split
  · next homitted =>
    refine lookup_of_not_mem fun hmem => ?_
    obtain ⟨m, hm, rfl⟩ := List.mem_map.mp hmem
    rcases List.mem_append.mp (hperm.subset hm) with hm | hm
    · exact absurd homitted (by simpa using (List.mem_filter.mp hm).2)
    · exact hforeign m hm hname
  · next hkept =>
    obtain ⟨⟨_, v⟩, hm, rfl⟩ := List.mem_map.mp hname
    have hmem : (_, v) ∈ members :=
      hperm.symm.subset (List.mem_append_left _ (List.mem_filter.mpr ⟨hm, by simpa using hkept⟩))
    rw [lookup_of_mem hown hm, lookup_of_mem_of_once (honce _ hname) hmem]

theorem filter (h : Arranged own omitted members) (p : String → Bool) :
    Arranged (own.filter fun m => p m.1) omitted (members.filter fun m => p m.1) := by
  have hboth {name : String} (hname : name ∈ (own.filter fun m => p m.1).map Prod.fst) :
      name ∈ own.map Prod.fst ∧ p name = true := by
    obtain ⟨m, hm, rfl⟩ := List.mem_map.mp hname
    exact ⟨List.mem_map_of_mem (List.mem_filter.mp hm).1, (List.mem_filter.mp hm).2⟩
  constructor
  · intro name hname
    have hle := (List.filter_sublist (p := fun m => p m.1) (l := members)).map Prod.fst
    exact Nat.le_trans (hle.count_le name) (h.once name (hboth hname).1)
  · intro name hname
    rw [lookup_filter p (hboth hname).2, lookup_filter p (hboth hname).2]
    exact h.lookup name (hboth hname).1

theorem said (h : Arranged own omitted members) (name : String) {read : Value → Read α} {v : Value} {a : α}
    (hown : own.lookup name = some v) (ha : read v = .ok a) :
    said read name members = if name ∈ omitted then none else some a := by
  have hlookup := h.lookup name (mem_of_lookup hown)
  split at hlookup
  · next homitted => rw [if_pos homitted, Json.said, hlookup]; rfl
  · next hkept => rw [if_neg hkept, said_of_lookup (hlookup.trans hown) ha]

/-- Readers whose names are all among those of `own` read what is said there, and pass over the rest. -/
theorem readAll_eq (h : Arranged own omitted members) {readers : List (MemberReader δ)}
    {other : String → Value → δ → Read δ} {draftOf : Named → δ}
    (hdrafts : MemberReader.Drafts readers other draftOf)
    (hknown : ∀ reader ∈ readers, ∃ v, own.lookup reader.name = some v ∧
      ∀ d, ∃ d', reader.read v d = .ok d')
    (hforeign : ∀ m ∈ members, m.1 ∉ readers.map (·.name) → ∀ d, ∃ d', other m.1 m.2 d = .ok d') :
    MemberReader.readAll readers other members (draftOf []) = .ok (draftOf members) := by
  have honce : MemberReader.Once readers members := by
    intro reader hreader
    obtain ⟨v, hv, -⟩ := hknown reader hreader
    exact h.once reader.name (mem_of_lookup hv)
  refine hdrafts.readAll_eq_of_once honce (MemberReader.takes_of_once honce ?_ hforeign)
  intro reader hreader w hw
  obtain ⟨v, hv, hread⟩ := hknown reader hreader
  rw [h.lookup reader.name (mem_of_lookup hv), hv] at hw
  split at hw
  · cases hw
  · exact Option.some.inj hw ▸ hread

end Arranged

/-! ### Members that are missed -/

/-- Fail for want of the first of some names that is omitted. -/
def demand (names omitted : List String) (r : Read α) : Read α :=
  match names.find? (· ∈ omitted) with
  | none => r
  | some name => .error (.cause (.missingMember name))

section Demand

variable {names omitted : List String} {name : String}

theorem demand_cons (r : Read α) : demand (name :: names) omitted r =
    if name ∈ omitted then .error (.cause (.missingMember name)) else demand names omitted r := by
  by_cases h : name ∈ omitted <;> simp [demand, h]

theorem demand_bind (a : α) (f : α → Read β) :
    (demand names omitted (.ok a) >>= f) = demand names omitted (f a) := by
  unfold demand
  cases names.find? (· ∈ omitted) <;> rfl

theorem require_bind {a : α} {f : α → Read β} {r : Read β} (h : f a = demand names omitted r) :
    (MemberReader.require name (if name ∈ omitted then none else some a) >>= f) =
      demand (name :: names) omitted r := by
  rw [demand_cons]
  split
  · rfl
  · exact h

end Demand

end PerfTimeline.Json
