import PerfTimeline.Retention.Recorder

/-!
# Buffers hold entries in the order of their numbers

A recorder is ordered when each of its buffers holds entries of its own type only, in ascending order of
sequence, all numbered between one and the counter. A new recorder is, and storing, removing and resetting
keep it so.
-/

namespace PerfTimeline

/-! ### What becomes of the buffers -/

namespace Buffer

theorem mem_append {b : Buffer} {e x : Entry} (h : x ∈ (b.append e).1.entries) :
    x ∈ b.entries ∨ x = e := by
  by_cases h0 : b.capacity = some 0
  · rw [entries_append_of_zero h0] at h
    exact .inl h
  · rw [entries_append h0] at h
    rcases List.mem_append.mp h with hx | hx
    · exact .inl (List.mem_of_mem_drop hx)
    · exact .inr (List.mem_singleton.mp hx)

theorem excess_of_room {b : Buffer} (h : ∀ c, b.capacity = some c → b.size < c) : b.excess = 0 := by
  unfold excess
  cases hc : b.capacity with
  | none => rfl
  | some c =>
    have hlt := h c hc
    show b.size + 1 - c = 0
    omega

/-- While it has room a buffer gives nothing up. -/
theorem entries_append_of_room {b : Buffer} (h : ∀ c, b.capacity = some c → b.size < c) (e : Entry) :
    (b.append e).1.entries = b.entries ++ [e] := by
  have h0 : b.capacity ≠ some 0 := fun hc => Nat.not_lt_zero _ (h 0 hc)
  rw [entries_append h0, excess_of_room h, List.drop_zero]

/-- What arrives under a greater number than those held keeps the order of numbers. -/
theorem ascending_append {b : Buffer} {e : Entry}
    (h : b.entries.Pairwise fun x y => x.sequence < y.sequence)
    (hlast : ∀ x ∈ b.entries, x.sequence < e.sequence) :
    (b.append e).1.entries.Pairwise fun x y => x.sequence < y.sequence := by
  by_cases h0 : b.capacity = some 0
  · rw [entries_append_of_zero h0]
    exact h
  · rw [entries_append h0, List.pairwise_append]
    refine ⟨h.sublist (List.drop_sublist ..), List.pairwise_singleton .., ?_⟩
    intro x hx y hy
    rw [List.mem_singleton.mp hy]
    exact hlast x (List.mem_of_mem_drop hx)

theorem clear_clear_none (b : Buffer) : (b.clear none).clear none = b.clear none := by
  simp [clear, Entry.isNamed]

end Buffer

namespace Recorder

@[simp] theorem sequence_clear (r : Recorder) (t : EntryType) (name : Option String) :
    (r.clear t name).1.sequence = r.sequence := by
  unfold clear
  cases r.buffers.get t <;> rfl

@[simp] theorem counts_clear (r : Recorder) (t : EntryType) (name : Option String) :
    (r.clear t name).1.counts = r.counts := by
  unfold clear
  cases r.buffers.get t <;> rfl

theorem buffer_resetDropped (r : Recorder) (t : EntryType) :
    r.resetDropped.buffer t = (r.buffer t).resetDropped := by
  unfold resetDropped buffer
  rw [PerType.get_map]
  cases r.buffers.get t <;> rfl

theorem buffer_foldl_clear (types : List EntryType) (r : Recorder) (t : EntryType) :
    (types.foldl (fun r t => (r.clear t none).1) r).buffer t =
      if t ∈ types then (r.buffer t).clear none else r.buffer t := by
  induction types generalizing r with
  | nil => simp
  | cons u types ih =>
    rw [List.foldl_cons, ih]
    by_cases hu : t = u
    · subst hu
      simp [buffer_clear_self, Buffer.clear_clear_none]
    · rw [buffer_clear_of_ne r hu]
      simp [hu]

theorem clearAll_fst (r : Recorder) :
    r.clearAll.1 = EntryType.all.foldl (fun r t => (r.clear t none).1) r := by
  simp [clearAll, EntryType.all]

theorem buffer_clearAll (r : Recorder) (t : EntryType) :
    r.clearAll.1.buffer t = (r.buffer t).clear none := by
  rw [clearAll_fst, buffer_foldl_clear, if_pos t.mem_all]

@[simp] theorem sequence_clearAll (r : Recorder) : r.clearAll.1.sequence = r.sequence := by
  simp [clearAll_fst, EntryType.all]

@[simp] theorem counts_clearAll (r : Recorder) : r.clearAll.1.counts = r.counts := by
  simp [clearAll_fst, EntryType.all]

/-! ### Capacities -/

theorem capacity_buffer_append (r : Recorder) (e : Entry) (t : EntryType) :
    ((r.append e).1.buffer t).capacity = (r.buffer t).capacity := by
  by_cases ht : t = e.entryType
  · subst ht
    rw [buffer_append_self, Buffer.capacity_append]
  · rw [buffer_append_of_ne r ht]

theorem capacity_buffer_clear (r : Recorder) (u : EntryType) (name : Option String) (t : EntryType) :
    ((r.clear u name).1.buffer t).capacity = (r.buffer t).capacity := by
  by_cases ht : t = u
  · subst ht
    rw [buffer_clear_self]
    rfl
  · rw [buffer_clear_of_ne r ht]

theorem capacity_buffer_clearAll (r : Recorder) (t : EntryType) :
    (r.clearAll.1.buffer t).capacity = (r.buffer t).capacity := by
  rw [buffer_clearAll]
  rfl

theorem capacity_buffer_resetDropped (r : Recorder) (t : EntryType) :
    (r.resetDropped.buffer t).capacity = (r.buffer t).capacity := by
  rw [buffer_resetDropped]
  rfl

/-! ### Order -/

/-- Each buffer holds entries of its type in ascending order of sequence, numbered up to the counter. -/
structure Ordered (r : Recorder) : Prop where
  ascending : ∀ t, (r.buffer t).entries.Pairwise fun a b => a.sequence < b.sequence
  positive : ∀ t, ∀ e ∈ (r.buffer t).entries, 0 < e.sequence
  le_counter : ∀ t, ∀ e ∈ (r.buffer t).entries, e.sequence ≤ r.sequence
  typed : ∀ t, ∀ e ∈ (r.buffer t).entries, e.entryType = t

theorem entries_new (capacities : Capacities) (t : EntryType) :
    ((new capacities).buffer t).entries = [] := by
  cases t <;> rfl

theorem ordered_new (capacities : Capacities) : (new capacities).Ordered := by
  constructor <;> intro t <;> simp [entries_new]

/-- A recorder whose buffers hold no more than those of an ordered one, with the same counter, is ordered. -/
theorem Ordered.of_sublist {r r' : Recorder} (h : r.Ordered) (hs : r'.sequence = r.sequence)
    (hb : ∀ t, (r'.buffer t).entries.Sublist (r.buffer t).entries) : r'.Ordered where
  ascending t := (h.ascending t).sublist (hb t)
  positive t e he := h.positive t e ((hb t).subset he)
  le_counter t e he := hs ▸ h.le_counter t e ((hb t).subset he)
  typed t e he := h.typed t e ((hb t).subset he)

theorem entries_clear_sublist (r : Recorder) (t : EntryType) (name : Option String) (u : EntryType) :
    ((r.clear t name).1.buffer u).entries.Sublist (r.buffer u).entries := by
  by_cases hu : u = t
  · subst hu
    rw [buffer_clear_self]
    exact List.filter_sublist
  · have hsame := buffer_clear_of_ne r hu name
    exact hsame ▸ List.Sublist.refl _

theorem entries_clearAll_sublist (r : Recorder) (t : EntryType) :
    (r.clearAll.1.buffer t).entries.Sublist (r.buffer t).entries := by
  rw [buffer_clearAll]
  exact List.filter_sublist

theorem ordered_clear {r : Recorder} (h : r.Ordered) (t : EntryType) (name : Option String) :
    (r.clear t name).1.Ordered := h.of_sublist (sequence_clear r t name) (entries_clear_sublist r t name)

theorem ordered_clearAll {r : Recorder} (h : r.Ordered) : r.clearAll.1.Ordered :=
  h.of_sublist (sequence_clearAll r) (entries_clearAll_sublist r)

theorem ordered_resetDropped {r : Recorder} (h : r.Ordered) : r.resetDropped.Ordered := by
  refine h.of_sublist rfl ?_
  intro t
  rw [buffer_resetDropped]
  exact List.Sublist.refl _

theorem mem_entries_append {r : Recorder} {e x : Entry} {t : EntryType}
    (hx : x ∈ ((r.append e).1.buffer t).entries) :
    x ∈ (r.buffer t).entries ∨ t = e.entryType ∧ x = e.withSequence (r.sequence + 1) := by
  by_cases ht : t = e.entryType
  · subst ht
    rw [buffer_append_self] at hx
    exact (Buffer.mem_append hx).imp id fun hx => ⟨rfl, hx⟩
  · rw [buffer_append_of_ne r ht] at hx
    exact .inl hx

/-- The new entry takes the next number, so it goes behind whatever is stored. -/
theorem ordered_append {r : Recorder} (h : r.Ordered) (e : Entry) : (r.append e).1.Ordered := by
  constructor
  · intro t
    by_cases ht : t = e.entryType
    · subst ht
      rw [buffer_append_self]
      apply Buffer.ascending_append (h.ascending _)
      intro x hx
      have hle := h.le_counter _ x hx
      rw [Entry.sequence_withSequence]
      omega
    · rw [buffer_append_of_ne r ht]
      exact h.ascending t
  · intro t x hx
    rcases mem_entries_append hx with hx | ⟨-, rfl⟩
    · exact h.positive t x hx
    · exact Nat.succ_pos _
  · intro t x hx
    rw [sequence_append]
    rcases mem_entries_append hx with hx | ⟨-, rfl⟩
    · exact Nat.le_succ_of_le (h.le_counter t x hx)
    · exact Nat.le_refl _
  · intro t x hx
    rcases mem_entries_append hx with hx | ⟨rfl, rfl⟩
    · exact h.typed t x hx
    · rfl

theorem ordered_countEvent {r : Recorder} (h : r.Ordered) (name : String) : (r.countEvent name).Ordered :=
  h.of_sublist rfl fun _ => List.Sublist.refl _

theorem ordered_clearCounts {r : Recorder} (h : r.Ordered) : r.clearCounts.Ordered :=
  h.of_sublist rfl fun _ => List.Sublist.refl _

theorem select_none (r : Recorder) (t : EntryType) : r.select t none = (r.buffer t).entries := by
  rw [select_eq]
  simp [Buffer.select, Entry.isNamed]

end Recorder

end PerfTimeline
