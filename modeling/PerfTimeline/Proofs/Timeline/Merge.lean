import PerfTimeline.Host.Perform
import PerfTimeline.Proofs.Entry.Stable
import PerfTimeline.Proofs.Timeline.Recording

/-!
# Queries over several types

A query over several types merges what is stored under them: it answers with each record of these types once,
in strictly ascending order of start and number. The order is strict since no two records have the same
number, and then it does not matter in which order the types are named. This is so for records that start at
any bits (`Apart.merges`), and so for retained entries.
-/

namespace PerfTimeline

/-! ### Records stored by type -/

section Types

variable {α : Type} {number : α → Nat} {kind : α → EntryType} {stored : EntryType → List α}
  {types : List EntryType}

/-- Records are stored under their types, and no two of them under the same number. -/
structure Apart (number : α → Nat) (kind : α → EntryType) (stored : EntryType → List α) : Prop where
  typed : ∀ t, ∀ a ∈ stored t, kind a = t
  nodup : ∀ t, ((stored t).map number).Nodup
  separate : ∀ t u, t ≠ u → ∀ a ∈ stored t, ∀ b ∈ stored u, number a ≠ number b

theorem Apart.mem_flatMap (h : Apart number kind stored) {a : α} :
    a ∈ types.flatMap stored ↔ kind a ∈ types ∧ a ∈ stored (kind a) := by
  rw [List.mem_flatMap]
  constructor
  · rintro ⟨t, ht, ha⟩
    obtain rfl : kind a = t := h.typed t a ha
    exact ⟨ht, ha⟩
  · rintro ⟨ht, ha⟩
    exact ⟨kind a, ht, ha⟩

theorem Apart.nodup_number (h : Apart number kind stored) (hn : types.Nodup) :
    ((types.flatMap stored).map number).Nodup := by
  rw [List.Nodup, List.pairwise_map, List.pairwise_flatMap]
  exact ⟨fun t _ => List.pairwise_map.mp (h.nodup t), hn.imp fun hne => h.separate _ _ hne⟩

/-- What a query for types answers with, where records are stored by type. -/
structure MergesTypes (start : α → UInt64) (number : α → Nat) (kind : α → EntryType)
    (stored : EntryType → List α) (query : List EntryType → List α) : Prop where
  once {types : List EntryType} (hn : types.Nodup) : (query types).Nodup
  all {types : List EntryType} {a : α} : a ∈ query types ↔ kind a ∈ types ∧ a ∈ stored (kind a)
  ascending {types : List EntryType} (hn : types.Nodup) : (query types).Pairwise (Earlier start number)
  order {types types' : List EntryType} (hn : types.Nodup) (hp : types'.Perm types) :
    query types' = query types

/-- This holds of all patterns, those of NaN included. -/
theorem Apart.merges (h : Apart number kind stored) (start : α → UInt64) :
    MergesTypes start number kind stored fun types => sortBy (rank start number) (types.flatMap stored) where
  once {types} hn := by
    have hnodup : (types.flatMap stored).Nodup := .of_map number (h.nodup_number hn)
    exact (sortBy_perm _ _).nodup_iff.mpr hnodup
  all {types a} := by rw [(sortBy_perm _ _).mem_iff, h.mem_flatMap]
  ascending hn := (sortBy_strict (nodup_rank (h.nodup_number hn))).imp rank_lt_iff.mp
  order hn hp := (sortBy_eq_of_perm (hp.symm.flatMap_right _) (nodup_rank (h.nodup_number hn))).symm

end Types

/-! ### Retained entries -/

namespace Recorder

variable {capacities : Capacities} {r : Recorder}

theorem mem_select {t : EntryType} {name : Option String} {e : Entry} :
    e ∈ r.select t name ↔ e ∈ (r.buffer t).entries ∧ e.isNamed name = true := by
  rw [select_eq, Buffer.mem_select]

theorem Reachable.apart (h : r.Reachable capacities) (name : Option String) :
    Apart Entry.sequence Entry.entryType fun t => r.select t name where
  typed t e he := h.ordered.typed t e (mem_select.mp he).1
  nodup t := by
    rw [select_eq, List.Nodup, List.pairwise_map]
    exact ((h.ordered.ascending t).filter _).imp fun hlt => Nat.ne_of_lt hlt
  separate t u hne a ha b hb := h.separate t u hne a (mem_select.mp ha).1 b (mem_select.mp hb).1

theorem Reachable.merges (h : r.Reachable capacities) (name : Option String) :
    MergesTypes Entry.startBits Entry.sequence Entry.entryType (fun t => r.select t name)
      fun types => r.selectSorted types name := by
  unfold selectSorted
  rw [Entry.sort_eq_sortBy]
  exact (h.apart name).merges Entry.startBits

theorem Reachable.pairwise_selectSorted (h : r.Reachable capacities) {types : List EntryType}
    (hn : types.Nodup) (name : Option String) : (r.selectSorted types name).Pairwise Entry.Before :=
  ((h.merges name).ascending hn).imp Entry.before_iff.mpr

theorem Reachable.count_selectSorted (h : r.Reachable capacities) {types : List EntryType}
    (hn : types.Nodup) (name : Option String) (e : Entry) :
    (r.selectSorted types name).count e =
      if e.entryType ∈ types ∧ e ∈ (r.buffer e.entryType).entries ∧ e.isNamed name = true then 1
      else 0 := by
  simp only [((h.merges name).once hn).count, (h.merges name).all, mem_select]

/-- A query over different types returns every retained entry of these types, with the given name if there
is one, exactly once and nothing else, in strictly ascending order of start and number. It returns the same
list for the types in any other order, and asking for it changes nothing, so that asking again returns the
same list too. So would a query over records that start at any bits, with all the patterns of NaN, of which a
`Float` has one. -/
theorem selectSorted_merges (h : r.Reachable capacities) {types : List EntryType} (hn : types.Nodup)
    (name : Option String) :
    (∀ e, (r.selectSorted types name).count e =
      if e.entryType ∈ types ∧ e ∈ (r.buffer e.entryType).entries ∧ e.isNamed name = true then 1
      else 0) ∧
    (r.selectSorted types name).Pairwise Entry.Before ∧
    (∀ types' : List EntryType, types'.Perm types →
      r.selectSorted types' name = r.selectSorted types name) ∧
    (∀ (hooks : Hooks Host.Application) (s : Host.Session), s.recorder = r → s.host.attached = true →
      s.perform hooks (.recorder (.selectSorted types name)) =
        (s, .entries (r.selectSorted types name))) ∧
    ∀ {α : Type} (start : α → UInt64) (number : α → Nat) (kind : α → EntryType)
      (stored : EntryType → List α), Apart number kind stored →
        MergesTypes start number kind stored fun types =>
          sortBy (rank start number) (types.flatMap stored) := by
  refine ⟨h.count_selectSorted hn name, h.pairwise_selectSorted hn name,
    fun types' hp => (h.merges name).order hn hp, ?_, fun start number kind stored hs => hs.merges start⟩
  intro hooks s hs ha
  subst hs
  simp only [Host.Session.perform, Host.Session.withRecorder, ha, ite_true]
  rfl

/-- An observer answers a mark at zero by reporting a measure that starts at minus zero. Beside them, four records
start at three patterns of NaN, two of them at the same. -/
theorem selectSorted_merges_zeros :
    let plan : ObserverId → Timeline Unit → List Operation :=
      fun _ _ => [.report (.measure "minus" ⟨-0.0⟩ .zero)]
    let ops : List Operation :=
      [.create 9 .direct, .observeOne 0 .mark {}, .report (.mark "plus" .zero)]
    let r := ((Timeline.new .standard ()).run (Hooks.quiet.planned plan 1) ops).recorder
    let types : List EntryType := [.mark, .measure]
    let plus := (Entry.mark "plus" .zero).withSequence 1
    let minus := (Entry.measure "minus" ⟨-0.0⟩ .zero).withSequence 2
    let stored : EntryType → List (UInt64 × Nat)
      | .mark => [(0x7ff8000000000001, 1), (0x7ff8000000000000, 3)]
      | .measure => [(0x7ff8000000000001, 2), (0xfff8000000000000, 4)]
      | _ => []
    let kind : UInt64 × Nat → EntryType := fun a => if a.2 % 2 = 1 then .mark else .measure
    let query := fun types : List EntryType => sortBy (rank Prod.fst Prod.snd) (types.flatMap stored)
    r.Reachable .standard ∧ types.Nodup ∧ (r.selectSorted types none).Pairwise Entry.Before ∧
      r.selectSorted types.reverse none = r.selectSorted types none ∧
      r.selectSorted types none = [minus, plus] ∧
      (r.selectSorted types (some "minus")).count minus = 1 ∧
      (r.selectSorted types (some "minus")).count plus = 0 ∧
      Apart Prod.snd kind stored ∧ MergesTypes Prod.fst Prod.snd kind stored query ∧
      query types =
        [(0xfff8000000000000, 4), (0x7ff8000000000000, 3), (0x7ff8000000000001, 1), (0x7ff8000000000001, 2)] := by
  intro plan ops r types plus minus stored kind query
  have hnew : (Timeline.new Capacities.standard ()).recorder.Reachable .standard := .new
  have hr : r.Reachable .standard :=
    Timeline.reachable_run (Hooks.quiet.recording_planned plan 1) ops hnew
  have hn : types.Nodup := by decide
  obtain ⟨-, hsorted, horder, -⟩ := selectSorted_merges hr hn none
  obtain ⟨hnamed, -, -, -, hmerges⟩ := selectSorted_merges hr hn (some "minus")
  have hapart : Apart Prod.snd kind stored := by
    constructor
    · intro t
      cases t <;> decide
    · intro t
      cases t <;> decide
    · intro t u
      cases t <;> cases u <;> decide
  refine ⟨hr, hn, hsorted, horder types.reverse types.reverse_perm, ?_, ?_, ?_, hapart,
    hmerges Prod.fst Prod.snd kind stored hapart, ?_⟩
  · have hselect : (types.flatMap fun t => r.select t none) = [plus, minus] := by
      decide +kernel
    have hlater : plus.precedes minus = false := by decide +kernel
    rw [selectSorted, hselect]
    simp [Entry.sort, List.mergeSort, List.MergeSort.Internal.splitInTwo, hlater]
  · rw [hnamed]
    decide +kernel
  · rw [hnamed]
    decide +kernel
  · simp [query, types, stored, sortBy, List.mergeSort, List.MergeSort.Internal.splitInTwo, rank,
      Prod.Lex.toLex_le_toLex, bitsKey, signBit]

end Recorder

end PerfTimeline
