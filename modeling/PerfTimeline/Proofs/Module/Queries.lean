import PerfTimeline.Module.Basic
import PerfTimeline.Proofs.Timeline.Merge

/-!
# Queries filter one list

What can be read back is one list, all retained marks and measures in the order of entries, and a query by name
or type answers with a part of it. A query selects its entries in the buffers first and sorts them then. That
it makes no difference is because sorting is stable, and because records keep the type and the name of their
entries.
-/

namespace PerfTimeline

/-! ### Selecting before and after sorting -/

namespace Recorder

variable {r : Recorder}

/-- A buffer holds entries of one type, so selecting by type keeps all of them or none. -/
theorem Ordered.filter_select (h : r.Ordered) (t : EntryType) (shown : EntryType → Bool)
    (name : Option String) :
    ((r.select t none).filter fun e => shown e.entryType && e.isNamed name) =
      if shown t then r.select t name else [] := by
  have htype : ∀ e ∈ r.select t none, (shown e.entryType && e.isNamed name) = (shown t && e.isNamed name) := by
    intro e he
    rw [h.typed t e (mem_select.mp he).1]
  rw [List.filter_congr htype, select_none, select_eq, Buffer.select]
  cases shown t with
  | true => rfl
  | false => simp

theorem Ordered.filter_flatMap_select (h : r.Ordered) (types : List EntryType) (shown : EntryType → Bool)
    (name : Option String) :
    ((types.flatMap fun t => r.select t none).filter fun e => shown e.entryType && e.isNamed name) =
      (types.filter shown).flatMap fun t => r.select t name := by
  induction types with
  | nil => rfl
  | cons t types ih =>
    rw [List.flatMap_cons, List.filter_append, h.filter_select, ih]
    cases ht : shown t with
    | true => rw [List.filter_cons_of_pos ht, List.flatMap_cons, if_pos rfl]
    | false => rw [List.filter_cons_of_neg (by simp [ht]), if_neg Bool.false_ne_true, List.nil_append]

/-- A query for some of the types, and for one name, is a part of the query for all of the types. -/
theorem Ordered.filter_selectSorted (h : r.Ordered) (types : List EntryType)
    (shown : EntryType → Bool) (name : Option String) :
    ((r.selectSorted types none).filter fun e => shown e.entryType && e.isNamed name) =
      r.selectSorted (types.filter shown) name := by
  unfold selectSorted
  rw [Entry.filter_sort, h.filter_flatMap_select]

end Recorder

/-! ### Records -/

theorem EntryType.nodup_readable : readable.Nodup := by decide

theorem EntryType.filter_readable (t : EntryType) :
    (readable.filter fun u => u = t) = if t.isReadable then [t] else [] := by
  cases t <;> rfl

namespace Module

/-- The queries by name or type read the list of all entries that can be read back. -/
structure Filters (r : Recorder) : Prop where
  byType (t : EntryType) : entriesByType r t = (entries r).filter fun x => x.entryType = t
  byName (name : String) : entriesByName r name none = (entries r).filter fun x => x.name = name
  byBoth (name : String) (t : EntryType) : entriesByName r name (some t) =
    (entries r).filter fun x => x.entryType = t ∧ x.name = name
  /-- Retained or not, entries of the other types are not there. -/
  hidden (name : String) (t : EntryType) (h : t = .event ∨ t = .longTask ∨ t = .resource) :
    entriesByType r t = [] ∧ entriesByName r name (some t) = []
  merged : ∃ es : List Entry, entries r = es.map Record.ofEntry ∧
    es.Perm (r.select .mark none ++ r.select .measure none) ∧ es.Pairwise Entry.Before

variable {capacities : Capacities} {r : Recorder}

/-- Leaving out records by type and name leaves out the entries that they are of. -/
theorem filter_entries (h : r.Ordered) (shown : EntryType → Bool) (name : Option String) :
    ((entries r).filter fun x => shown x.entryType && (name.all fun n => x.name = n)) =
      (r.selectSorted (EntryType.readable.filter shown) name).map Record.ofEntry := by
  have hrecord (e : Entry) :
      (shown (Record.ofEntry e).entryType && (name.all fun n => (Record.ofEntry e).name = n)) =
        (shown e.entryType && e.isNamed name) := by
    rw [Record.entryType_ofEntry, Record.name_ofEntry]
    cases name with
    | none => rfl
    | some n => rfl
  rw [entries, List.filter_map, ← h.filter_selectSorted]
  exact congrArg (List.map Record.ofEntry) (List.filter_congr fun e _ => hrecord e)

/-- In every reachable state the queries are filters of one list, which merges the retained marks and
measures. -/
theorem queries_filter (h : r.Reachable capacities) : Filters r where
  byType t := by
    rw [entriesByType, ← EntryType.filter_readable, ← filter_entries h.ordered]
    simp
  byName name := by
    have hall : (EntryType.readable.filter fun _ => true) = EntryType.readable := rfl
    rw [entriesByName, ← hall, ← filter_entries h.ordered]
    simp
  byBoth name t := by
    rw [entriesByName, ← EntryType.filter_readable, ← filter_entries h.ordered]
    simp
  hidden name t ht := by
    have hnot : t.isReadable = false := by
      rcases ht with rfl | rfl | rfl <;> rfl
    simp [entriesByType, entriesByName, hnot, Recorder.selectSorted, Entry.sort]
  merged := by
    refine ⟨r.selectSorted EntryType.readable none, rfl, ?_, ?_⟩
    · have htypes : (EntryType.readable.flatMap fun t => r.select t none) =
          r.select .mark none ++ r.select .measure none := by
        simp [EntryType.readable]
      exact htypes ▸ Entry.sort_perm _
    · exact h.pairwise_selectSorted EntryType.nodup_readable none

/-- An observer answers a mark with a measure that starts together with it, beside a retained input event. -/
theorem queries_filter_together :
    let plan : ObserverId → Timeline Unit → List Operation :=
      fun _ _ => [.report (.measure "a" .zero .zero)]
    let ops : List Operation :=
      [.create 9 .direct, .observeOne 0 .mark {}, .reportEvent "a" .zero .zero ⟨.zero, .zero, 0⟩,
        .report (.mark "a" .zero)]
    let r := ((Timeline.new .standard ()).run (Hooks.quiet.planned plan 1) ops).recorder
    r.Reachable .standard ∧ Filters r ∧ r.size .event = 1 ∧
      (r.select .mark none).length = 1 ∧ (r.select .measure none).length = 1 := by
  intro plan ops r
  have hnew : (Timeline.new Capacities.standard ()).recorder.Reachable .standard := .new
  have hr : r.Reachable .standard :=
    Timeline.reachable_run (Hooks.quiet.recording_planned plan 1) ops hnew
  exact ⟨hr, queries_filter hr, by decide +kernel, by decide +kernel, by decide +kernel⟩

end Module

end PerfTimeline
