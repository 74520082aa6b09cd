import PerfTimeline.Proofs.Retention.Ordered

/-!
# Reachable recorders

`Reachable` is every recorder that its operations lead to from an empty one. All of them are ordered, and
since all buffers draw from one counter no number occurs in two of them.
-/

namespace PerfTimeline.Recorder

inductive Reachable (capacities : Capacities) : Recorder → Prop where
  | new : Reachable capacities (new capacities)
  | append {r : Recorder} (e : Entry) : Reachable capacities r → Reachable capacities (r.append e).1
  | countEvent {r : Recorder} (name : String) :
      Reachable capacities r → Reachable capacities (r.countEvent name)
  | clear {r : Recorder} (t : EntryType) (name : Option String) :
      Reachable capacities r → Reachable capacities (r.clear t name).1
  | clearCounts {r : Recorder} : Reachable capacities r → Reachable capacities r.clearCounts
  | resetDropped {r : Recorder} : Reachable capacities r → Reachable capacities r.resetDropped

theorem Reachable.clearAll {capacities : Capacities} {r : Recorder} (h : r.Reachable capacities) :
    r.clearAll.1.Reachable capacities := by
  rw [clearAll_fst]
  generalize EntryType.all = types
  induction types generalizing r with
  | nil => exact h
  | cons t types ih => exact ih (h.clear t none)

theorem Reachable.ordered {capacities : Capacities} {r : Recorder} (h : r.Reachable capacities) :
    r.Ordered := by
  induction h with
  | new => exact ordered_new capacities
  | append e _ ih => exact ordered_append ih e
  | countEvent name _ ih => exact ordered_countEvent ih name
  | clear t name _ ih => exact ordered_clear ih t name
  | clearCounts _ ih => exact ordered_clearCounts ih
  | resetDropped _ ih => exact ordered_resetDropped ih

/-! ### Numbers across buffers -/

/-- No number occurs in two buffers. -/
def Separate (r : Recorder) : Prop :=
  ∀ t u, t ≠ u → ∀ a ∈ (r.buffer t).entries, ∀ b ∈ (r.buffer u).entries, a.sequence ≠ b.sequence

theorem Separate.of_sublist {r r' : Recorder} (h : r.Separate)
    (hb : ∀ t, (r'.buffer t).entries.Sublist (r.buffer t).entries) : r'.Separate :=
  fun t u hne a ha b hb' => h t u hne a ((hb t).subset ha) b ((hb u).subset hb')

theorem Separate.append {r : Recorder} (h : r.Separate) (ho : r.Ordered) (e : Entry) :
    (r.append e).1.Separate := by
  intro t u hne a ha b hb
  rcases mem_entries_append ha with ha | ⟨rfl, rfl⟩
  · rcases mem_entries_append hb with hb | ⟨rfl, rfl⟩
    · exact h t u hne a ha b hb
    · have hle := ho.le_counter t a ha
      rw [Entry.sequence_withSequence]
      omega
  · rcases mem_entries_append hb with hb | ⟨rfl, -⟩
    · have hle := ho.le_counter u b hb
      rw [Entry.sequence_withSequence]
      omega
    · exact absurd rfl hne

theorem Reachable.separate {capacities : Capacities} {r : Recorder} (h : r.Reachable capacities) :
    r.Separate := by
  induction h with
  | new =>
    intro t u _ a ha
    rw [entries_new] at ha
    exact nomatch ha
  | append e h ih => exact ih.append h.ordered e
  | countEvent name _ ih => exact ih
  | clear t name _ ih => exact ih.of_sublist (entries_clear_sublist _ t name)
  | clearCounts _ ih => exact ih
  | resetDropped _ ih =>
    refine ih.of_sublist fun t => ?_
    rw [buffer_resetDropped]
    exact List.Sublist.refl _

end PerfTimeline.Recorder
