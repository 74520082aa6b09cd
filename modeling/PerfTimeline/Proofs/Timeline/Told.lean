import PerfTimeline.Proofs.Timeline.TypeIsolation

/-!
# What is told of storage

Storing an entry is told behind the evictions that it takes, and a removal is told with the number of entries
removed. Seen from one entry type, an operation is at most one change of one buffer, and what is told of the
type is told of that change (`events_of_type`).
-/

namespace PerfTimeline

/-- The trace of what an operation does to the recorder. -/
def Operation.events : Operation → Recorder → List TraceEvent
  | report e, r => (r.append e).2.2
  | reportEvent name start duration timing, r =>
    ((r.countEvent name).append (.event name start duration timing)).2.2
  | clear t name, r => (r.clear t name).2
  | clearAll, r => r.clearAll.2
  | _, _ => []

/-- Whether a trace event is about the stored entries of type `t`. -/
def TraceEvent.regards (t : EntryType) : TraceEvent → Bool
  | evicted u .. => u = t
  | reported e => e.entryType = t
  | cleared u .. => u = t
  | _ => false

/-- What is told of a change of the buffer of type `t`, which may not be in use yet and would start as
`fresh`. -/
def Buffer.Change.told (t : EntryType) (fresh : Buffer) : Buffer.Change → Option Buffer → List TraceEvent
  | append e, slot => ((slot.getD fresh).append e).2 ++ [.reported e]
  | clear name, slot => (slot.map fun b => .cleared t name (b.clearCount name)).toList
  | resetDropped, _ => []

namespace Recorder

variable {capacities : Capacities} {r : Recorder} {t : EntryType}

/-- What holds of a fresh buffer and is kept by changes holds of the buffers that can be reached. -/
theorem Reachable.buffer {P : Buffer → Prop} (h : r.Reachable capacities)
    (hfresh : P (.empty t (capacities.get t))) (hchange : ∀ b change, P b → P (b.perform change)) :
    P (r.buffer t) := by
  have changed {r : Recorder} (op : Operation) (h : P (r.buffer t)) : P ((op.onRecorder r).buffer t) := by
    rw [buffer_onRecorder]
    cases op.changeOn t (r.sequence + 1) with
    | none => exact h
    | some change => exact hchange _ change h
  induction h with
  | new => cases t <;> exact hfresh
  | append e _ ih => exact changed (.report e) ih
  | countEvent name _ ih => exact ih
  | clear u name _ ih => exact changed (.clear u name) ih
  | clearCounts _ ih => exact ih
  | resetDropped _ ih => exact changed .resetDropped ih

theorem Reachable.entryType_buffer (h : r.Reachable capacities) (t : EntryType) :
    (r.buffer t).entryType = t :=
  h.buffer (P := fun b => b.entryType = t) rfl fun b change hb => (b.entryType_perform change).trans hb

theorem Reachable.capacity_buffer (h : r.Reachable capacities) (t : EntryType) :
    (r.buffer t).capacity = capacities.get t :=
  h.buffer (P := fun b => b.capacity = capacities.get t) rfl fun b change hb =>
    (b.capacity_perform change).trans hb

theorem Reachable.fits_buffer (h : r.Reachable capacities) (t : EntryType) : (r.buffer t).Fits :=
  h.buffer (fun c _ => Nat.zero_le c) fun _ change hb => hb.perform change

theorem clear_snd (r : Recorder) (t : EntryType) (name : Option String) :
    (r.clear t name).2 =
      ((r.buffers.get t).map fun b => .cleared t name (b.clearCount name)).toList := by
  unfold clear
  cases r.buffers.get t <;> rfl

/-- The types are cleared in turn, and what is told of one does not depend on the others. -/
theorem clearAll_snd (r : Recorder) :
    r.clearAll.2 = EntryType.all.flatMap fun t => (r.clear t none).2 := by
  simp [clearAll, EntryType.all, clear_snd, get_clear]

theorem mem_clear_snd {u : EntryType} {name : Option String} {event : TraceEvent}
    (h : event ∈ (r.clear u name).2) : ∃ n, event = .cleared u name n := by
  rw [clear_snd] at h
  obtain ⟨b, -, rfl⟩ := Option.map_eq_some_iff.mp (Option.mem_toList.mp h)
  exact ⟨_, rfl⟩

theorem mem_clearAll_snd {event : TraceEvent} (h : event ∈ r.clearAll.2) :
    ∃ u n, event = .cleared u none n := by
  rw [clearAll_snd] at h
  obtain ⟨u, -, hu⟩ := List.mem_flatMap.mp h
  exact ⟨u, mem_clear_snd hu⟩

end Recorder

/-- What is told of an operation is told of storing an entry, or tells of removals only. -/
theorem Operation.events_cases (op : Operation) (r : Recorder) :
    (∃ e, op.events r = (r.append e).2.2) ∨
      ∀ event ∈ op.events r, ∃ u name n, event = .cleared u name n := by
  cases op with
  | report e => exact .inl ⟨e, rfl⟩
  | reportEvent name start duration timing => exact .inl ⟨.event name start duration timing, rfl⟩
  | clear u name =>
    refine .inr fun event hevent => ?_
    obtain ⟨n, rfl⟩ := Recorder.mem_clear_snd hevent
    exact ⟨u, name, n, rfl⟩
  | clearAll =>
    refine .inr fun event hevent => ?_
    obtain ⟨u, n, rfl⟩ := Recorder.mem_clearAll_snd hevent
    exact ⟨u, none, n, rfl⟩
  | _ => exact .inr fun _ hevent => absurd hevent List.not_mem_nil

/-! ### One type at a time -/

namespace Buffer

theorem evictions_entryType (t : EntryType) (dropped : Nat) (gone : List Entry) :
    ∀ event ∈ evictions t dropped gone, ∃ name k, event = .evicted t name k := by
  induction gone generalizing dropped with
  | nil => exact nofun
  | cons e gone ih => exact List.forall_mem_cons.mpr ⟨⟨e.name, dropped + 1, rfl⟩, ih (dropped + 1)⟩

theorem append_snd_entryType (b : Buffer) (e : Entry) :
    ∀ event ∈ (b.append e).2, ∃ name k, event = .evicted b.entryType name k := by
  unfold append
  split
  · exact nofun
  · exact evictions_entryType b.entryType b.dropped _

end Buffer

namespace Recorder

variable {capacities : Capacities} {r : Recorder}

theorem append_events (r : Recorder) (e : Entry) : (r.append e).2.2 =
    ((r.buffer e.entryType).append (e.withSequence (r.sequence + 1))).2 ++
      [.reported (e.withSequence (r.sequence + 1))] := rfl

theorem append_told (h : ∀ u, (r.buffer u).entryType = u) (e : Entry) (t : EntryType) :
    ((r.append e).2.2).filter (·.regards t) = if e.entryType = t then (r.append e).2.2 else [] := by
  -- Everything that is told of storing an entry is about its type.
  have hregards : ∀ event ∈ (r.append e).2.2, event.regards t = decide (e.entryType = t) := by
    rw [append_events]
    refine List.forall_mem_append.mpr ⟨fun event hevent => ?_, List.forall_mem_singleton.mpr rfl⟩
    obtain ⟨name, k, rfl⟩ := Buffer.append_snd_entryType _ _ event hevent
    rw [h]
    rfl
  split
  · rename_i ht
    exact List.filter_eq_self.mpr fun event hevent => by simp [hregards event hevent, ht]
  · rename_i ht
    exact List.filter_eq_nil_iff.mpr fun event hevent => by simp [hregards event hevent, ht]

theorem clear_told (r : Recorder) (u : EntryType) (name : Option String) (t : EntryType) :
    ((r.clear u name).2).filter (·.regards t) = if u = t then (r.clear t name).2 else [] := by
  rw [clear_snd, clear_snd]
  by_cases hu : u = t
  · subst hu
    cases r.buffers.get u <;> simp [TraceEvent.regards]
  · cases r.buffers.get u <;> simp [TraceEvent.regards, hu]

/-- What is told of a type is told of the change that its buffer undergoes. -/
theorem events_of_type (h : r.Reachable capacities) (op : Operation) (t : EntryType) :
    (op.events r).filter (·.regards t) =
      (op.changeOn t (r.sequence + 1)).elim []
        (·.told t (.empty t (r.capacities.get t)) (r.buffers.get t)) := by
  have stored {r : Recorder} (h : r.Reachable capacities) (e : Entry) :
      ((r.append e).2.2).filter (·.regards t) =
        (if e.entryType = t then some (Buffer.Change.append (e.withSequence (r.sequence + 1)))
          else none).elim [] (·.told t (.empty t (r.capacities.get t)) (r.buffers.get t)) := by
    rw [append_told h.entryType_buffer]
    split
    · rename_i ht
      subst ht
      rfl
    · rfl
  cases op with
  | report e => exact stored h e
  | reportEvent name start duration timing => exact stored (h.countEvent name) _
  | clear u name =>
    rw [Operation.events, clear_told, Operation.changeOn, clear_snd]
    split <;> rfl
  | clearAll =>
    rw [Operation.events, clearAll_snd, List.filter_flatMap]
    simp only [clear_told, Operation.changeOn, Option.elim_some, Buffer.Change.told, ← clear_snd]
    cases t <;> simp [EntryType.all]
  | _ => rfl

end Recorder

end PerfTimeline
