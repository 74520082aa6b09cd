import PerfTimeline.Proofs.Timeline.Chronicle
import PerfTimeline.Proofs.Timeline.TypeIsolation

/-!
# What became of every entry

Seen from one entry type, an operation is at most one change of one buffer. So the fates of the entries of
that type can be followed through a chronicle: an entry that was reported is retained, was cleared, or was
dropped, and it is never two of these.
-/

namespace PerfTimeline

/-! ### What a change takes away -/

namespace Buffer

/-- The entry that a change stores or refuses. -/
def Change.arrival? : Change → Option Entry
  | .append e => some e
  | _ => none

/-- What is not there any more after a change, of the entries held before and the one that arrived. -/
def gone (b : Buffer) (change : Change) : List Entry :=
  (b.entries ++ change.arrival?.toList).filter (· ∉ (b.perform change).entries)

theorem entries_perform_sublist (b : Buffer) (change : Change) :
    (b.perform change).entries.Sublist (b.entries ++ change.arrival?.toList) := by
  cases change with
  | append e =>
    by_cases h0 : b.capacity = some 0
    · rw [perform, entries_append_of_zero h0]
      exact List.sublist_append_left ..
    · rw [perform, entries_append h0]
      exact (List.drop_sublist ..).append_right _
  | clear name => exact List.filter_sublist.trans (List.sublist_append_left ..)
  | resetDropped => exact List.sublist_append_left ..

end Buffer

theorem Operation.arrival?_changeOn (t : EntryType) (r : Recorder) (op : Operation) :
    ((op.changeOn t (r.sequence + 1)).bind Buffer.Change.arrival?) =
      (op.reported?.map fun e => (r.append e).2.1).filter (·.entryType = t) := by
  have append (e : Entry) :
      ((if e.entryType = t then some (Buffer.Change.append (e.withSequence (r.sequence + 1)))
        else none).bind Buffer.Change.arrival?) = (some (r.append e).2.1).filter (·.entryType = t) := by
    by_cases ht : e.entryType = t <;> simp [ht, Buffer.Change.arrival?, Option.filter]
  cases op with
  | report e => exact append e
  | reportEvent name start duration timing => exact append (.event name start duration timing)
  | clear u name => by_cases hu : u = t <;> simp [changeOn, hu, Buffer.Change.arrival?, reported?]
  | _ => rfl

/-! ### Fates -/

/-- What became of the entries of a type that are not retained. -/
structure Fates where
  cleared : List Entry := []
  dropped : List Entry := []
  /-- Those dropped since the count of them was last reset. -/
  counted : List Entry := []

def Fates.enter (f : Fates) (b : Buffer) (change : Buffer.Change) : Fates :=
  match change with
  | .append _ => { f with dropped := f.dropped ++ b.gone change, counted := f.counted ++ b.gone change }
  | .clear _ => { f with cleared := f.cleared ++ b.gone change }
  | .resetDropped => { f with counted := [] }

/-- The fates `f` of the entries of type `t`, continued along a chronicle. -/
def Chronicle.fates (t : EntryType) (r : Recorder) : Chronicle → Fates → Fates
  | [], f => f
  | (op, _) :: c, f => fates t (op.onRecorder r) c
      ((op.changeOn t (r.sequence + 1)).elim f (f.enter (r.buffer t)))

/-- The entries that were `stored` are accounted for: those in the buffer are there as they were stored and
in their order, and each of the others has one fate. -/
structure Fates.Account (f : Fates) (stored : List Entry) (b : Buffer) : Prop where
  kept : b.entries.Sublist stored
  shared : stored.Perm (b.entries ++ f.cleared ++ f.dropped)
  counted : b.dropped = f.counted.length
  recent : f.counted <:+ f.dropped

theorem perm_append_filter {kept es : List Entry} (h : kept.Sublist es) (hn : es.Nodup) :
    es.Perm (kept ++ es.filter (· ∉ kept)) := by
  have hboth : (kept ++ es.filter (· ∉ kept)).Nodup := by
    refine List.nodup_append.mpr ⟨h.nodup hn, hn.filter _, ?_⟩
    rintro a ha b hb rfl
    exact absurd ha (by simpa using (List.mem_filter.mp hb).2)
  rw [List.perm_ext_iff_of_nodup hn hboth]
  intro e
  by_cases he : e ∈ kept
  · simp [he, h.subset he]
  · simp [he]

theorem nodup_of_ascending {es : List Entry} (h : es.Pairwise fun a b => a.sequence < b.sequence) :
    es.Nodup := h.imp fun hlt heq => Nat.ne_of_lt hlt (congrArg Entry.sequence heq)

theorem Buffer.perm_gone (b : Buffer) (change : Change)
    (h : (b.entries ++ change.arrival?.toList).Nodup) :
    (b.entries ++ change.arrival?.toList).Perm ((b.perform change).entries ++ b.gone change) :=
  perm_append_filter (entries_perform_sublist b change) h

theorem Fates.Account.enter {f : Fates} {stored : List Entry} {b : Buffer} (h : f.Account stored b)
    (hb : b.Fits) (change : Buffer.Change)
    (hasc : (stored ++ change.arrival?.toList).Pairwise fun x y => x.sequence < y.sequence) :
    (f.enter b change).Account (stored ++ change.arrival?.toList) (b.perform change) := by
  have held : (b.entries ++ change.arrival?.toList).Pairwise fun x y => x.sequence < y.sequence :=
    hasc.sublist (h.kept.append_right _)
  have hgone := b.perm_gone change (nodup_of_ascending held)
  have hkept := (b.entries_perform_sublist change).trans (h.kept.append_right _)
  -- What is gone has to be found again among the fates.
  have shared {g : Fates}
      (hfates : (f.cleared ++ f.dropped ++ b.gone change).Perm (g.cleared ++ g.dropped)) :
      (stored ++ change.arrival?.toList).Perm ((b.perform change).entries ++ g.cleared ++ g.dropped) := by
    refine List.perm_iff_count.mpr fun x => ?_
    have hstored := h.shared.count_eq x
    have hheld := hgone.count_eq x
    have hmoved := hfates.count_eq x
    simp only [List.count_append] at hstored hheld hmoved ⊢
    omega
  cases change with
  | append e =>
    refine ⟨hkept, shared ?_, ?_, ?_⟩
    · rw [List.append_assoc]
      exact .refl _
    · have hlost : (b.append e).1.dropped = b.dropped + (b.gone (.append e)).length := by
        refine Buffer.dropped_append hb (List.pairwise_append.mp held).1 fun x hx => ?_
        exact (List.pairwise_append.mp held).2.2 x hx e (List.mem_singleton_self e)
      show (b.append e).1.dropped = (f.counted ++ b.gone (.append e)).length
      rw [hlost, h.counted, List.length_append]
    · obtain ⟨before, hbefore⟩ := h.recent
      refine ⟨before, ?_⟩
      show before ++ (f.counted ++ _) = f.dropped ++ _
      rw [← List.append_assoc, hbefore]
  | clear name =>
    refine ⟨hkept, shared ?_, h.counted, h.recent⟩
    show (f.cleared ++ f.dropped ++ _).Perm (f.cleared ++ _ ++ f.dropped)
    rw [List.append_assoc, List.append_assoc]
    exact List.perm_append_comm.append_left _
  | resetDropped =>
    refine ⟨hkept, shared ?_, rfl, List.nil_suffix⟩
    have hnone : b.gone .resetDropped = [] :=
      Buffer.filter_of_subset fun x hx => (List.mem_append.mp hx).resolve_right List.not_mem_nil
    rw [hnone, List.append_nil]
    exact .refl _

/-! ### Along a chronicle -/

theorem Buffer.Fits.onRecorder {r : Recorder} {t : EntryType} (h : (r.buffer t).Fits) (op : Operation) :
    ((op.onRecorder r).buffer t).Fits := by
  rw [Recorder.buffer_onRecorder]
  cases op.changeOn t (r.sequence + 1) with
  | none => exact h
  | some change => exact h.perform change

namespace Chronicle

variable {capacities : Capacities} {r : Recorder} {c : Chronicle}

/-- The entries of type `t` that the reports returned. -/
def storedOf (t : EntryType) (c : Chronicle) : List Entry := c.stored.filter (·.entryType = t)

theorem storedOf_cons (t : EntryType) (op : Operation) (a : Answer) (c : Chronicle)
    (h : a.stored? = op.reported?.map fun e => (r.append e).2.1) :
    storedOf t ((op, a) :: c) =
      ((op.changeOn t (r.sequence + 1)).bind Buffer.Change.arrival?).toList ++ c.storedOf t := by
  rw [Operation.arrival?_changeOn, ← h, storedOf, stored, List.filterMap_cons]
  cases a.stored? with
  | none => rfl
  | some e => by_cases ht : e.entryType = t <;> simp [Option.filter, ht] <;> rfl

theorem account_replay {t : EntryType} {stored : List Entry} {f : Fates}
    (h : f.Account stored (r.buffer t)) (hfits : (r.buffer t).Fits) (hc : c.Attested r)
    (hasc : (stored ++ c.storedOf t).Pairwise fun x y => x.sequence < y.sequence) :
    (c.fates t r f).Account (stored ++ c.storedOf t) ((c.replay r).buffer t) := by
  induction c generalizing r stored f with
  | nil =>
    rw [show storedOf t [] = [] from rfl, List.append_nil]
    exact h
  | cons x c ih =>
    obtain ⟨op, a⟩ := x
    obtain ⟨ha, hc⟩ := hc
    rw [storedOf_cons t op a c ha, ← List.append_assoc] at hasc ⊢
    refine ih ?_ (hfits.onRecorder op) hc hasc
    rw [Recorder.buffer_onRecorder]
    cases hchange : op.changeOn t (r.sequence + 1) with
    | none =>
      rw [Option.bind_none, Option.toList_none, List.append_nil]
      exact h
    | some change =>
      rw [hchange, List.pairwise_append] at hasc
      exact h.enter hfits change hasc.1

/-! ### Numbering -/

theorem eq_stored_of_stored? {a : Answer} {e : Entry} (h : a.stored? = some e) : a = .stored e := by
  cases a with
  | stored x => exact congrArg Answer.stored (Option.some.inj h)
  | _ => cases h

theorem reports_cons (op : Operation) (a : Answer) (c : Chronicle) :
    reports ((op, a) :: c) = (op.reported?.map (·, a)).toList ++ c.reports := by
  rw [reports, List.filterMap_cons]
  cases op.reported? <;> rfl

theorem stored_cons (op : Operation) (a : Answer) (c : Chronicle) :
    stored ((op, a) :: c) = a.stored?.toList ++ c.stored := by
  rw [stored, List.filterMap_cons]
  cases a.stored? <;> rfl

theorem answers_reports (hc : c.Attested r) : c.reports.map Prod.snd = c.stored.map Answer.stored := by
  induction c generalizing r with
  | nil => rfl
  | cons x c ih =>
    obtain ⟨op, a⟩ := x
    obtain ⟨ha, hc⟩ := hc
    rw [reports_cons, stored_cons, List.map_append, List.map_append, ih hc]
    cases hop : op.reported? with
    | none =>
      rw [ha, hop]
      rfl
    | some e =>
      rw [hop] at ha
      rw [eq_stored_of_stored? ha]
      rfl

/-- Each report takes the next number, whatever its type is. -/
theorem stored_eq (hc : c.Attested r) :
    c.stored = (c.reports.map Prod.fst).mapIdx fun n e => e.withSequence (r.sequence + n + 1) := by
  induction c generalizing r with
  | nil => rfl
  | cons x c ih =>
    obtain ⟨op, a⟩ := x
    obtain ⟨ha, hc⟩ := hc
    rw [reports_cons, stored_cons, ha, ih hc]
    cases hop : op.reported? with
    | none =>
      rw [Timeline.sequence_onRecorder hop]
      rfl
    | some e =>
      obtain ⟨counts, hnext⟩ := Timeline.onRecorder_of_reported hop r
      simp only [hnext, Recorder.sequence_append, Recorder.stored_append, Option.map_some,
        Option.toList_some, List.singleton_append, List.map_cons, List.mapIdx_cons, Nat.add_assoc,
        Nat.add_comm 1]

theorem sequence_replay (r : Recorder) (c : Chronicle) :
    (c.replay r).sequence = r.sequence + c.reports.length := by
  induction c generalizing r with
  | nil => rfl
  | cons x c ih =>
    obtain ⟨op, a⟩ := x
    have hone : (op.reported?.map (·, a)).toList.length = op.reported?.toList.length := by
      cases op.reported? <;> rfl
    show (replay (op.onRecorder r) c).sequence = _
    rw [ih, Recorder.sequence_onRecorder_eq, reports_cons, List.length_append, hone, Nat.add_assoc]

theorem numbered (hc : c.Attested r) {n : Nat} {e : Entry} {a : Answer}
    (h : c.reports[n]? = some (e, a)) : a = .stored (e.withSequence (r.sequence + n + 1)) := by
  have hanswer : (c.reports.map Prod.snd)[n]? = some a := by rw [List.getElem?_map, h]; rfl
  have hentry : (c.reports.map Prod.fst)[n]? = some e := by rw [List.getElem?_map, h]; rfl
  rw [answers_reports hc, List.getElem?_map, stored_eq hc, List.getElem?_mapIdx, hentry] at hanswer
  exact (Option.some.inj hanswer).symm

theorem ascending_stored (hc : c.Attested r) :
    c.stored.Pairwise fun x y => x.sequence < y.sequence := by
  rw [stored_eq hc, List.pairwise_iff_getElem]
  intro i j hi hj hij
  simp only [List.getElem_mapIdx, Entry.sequence_withSequence]
  omega

end Chronicle

/-! ### Recorders of timelines -/

/-- A recorder accounts for all the reports of its life. -/
structure Recorder.Accounts (capacities : Capacities) (c : Chronicle) (r : Recorder) : Prop where
  /-- A report is answered with the entry as it was given, under the number of the report. -/
  numbered (n : Nat) (e : Entry) (a : Answer) (h : c.reports[n]? = some (e, a)) :
    a = .stored (e.withSequence (n + 1))
  typed (t : EntryType) : ∀ e ∈ r.select t none, e.entryType = t
  bounded (t : EntryType) : ∀ e ∈ r.select t none, e.sequence ≤ c.reports.length
  fits (t : EntryType) (n : Nat) (h : capacities.get t = some n) : r.size t ≤ n
  /-- Retained entries are as they were returned, and in the order of the reports. -/
  kept (t : EntryType) : (r.select t none).Sublist (c.storedOf t)
  /-- Each entry is retained, was cleared or was dropped. -/
  shared (t : EntryType) : (c.storedOf t).Perm
    (r.select t none ++ (c.fates t (.new capacities) {}).cleared ++
      (c.fates t (.new capacities) {}).dropped)
  /-- It is never two of these. -/
  once (t : EntryType) : (r.select t none ++ (c.fates t (.new capacities) {}).cleared ++
    (c.fates t (.new capacities) {}).dropped).Nodup
  /-- The count is of those dropped last, since it was reset. -/
  counted (t : EntryType) : r.dropped t = (c.fates t (.new capacities) {}).counted.length
  recent (t : EntryType) :
    (c.fates t (.new capacities) {}).counted <:+ (c.fates t (.new capacities) {}).dropped

namespace Chronicle

variable {capacities : Capacities} {r : Recorder} {c : Chronicle}

theorem replay_induction {P : Recorder → Prop} (step : ∀ r (op : Operation), P r → P (op.onRecorder r))
    (start : P r) (c : Chronicle) : P (c.replay r) := by
  induction c generalizing r with
  | nil => exact start
  | cons x c ih => exact ih (step r x.1 start)

theorem ordered_replay (capacities : Capacities) (c : Chronicle) : (c.replay (.new capacities)).Ordered :=
  (replay_induction (P := Recorder.Reachable capacities) (fun _ op h => h.onRecorder op) .new c).ordered

theorem capacity_replay (capacities : Capacities) (c : Chronicle) (t : EntryType) :
    ((c.replay (.new capacities)).buffer t).capacity = capacities.get t :=
  replay_induction (P := fun r => (r.buffer t).capacity = capacities.get t)
    (fun r op h => (Timeline.capacity_onRecorder op r t).trans h)
    (Timeline.capacity_new capacities () t) c

theorem fits_new (capacities : Capacities) (t : EntryType) : ((Recorder.new capacities).buffer t).Fits := by
  intro n _
  rw [Buffer.size, Recorder.entries_new]
  exact Nat.zero_le n

theorem fits_replay (capacities : Capacities) (c : Chronicle) (t : EntryType) :
    ((c.replay (.new capacities)).buffer t).Fits :=
  replay_induction (P := fun r => (r.buffer t).Fits) (fun _ op h => h.onRecorder op)
    (fits_new capacities t) c

theorem account_new (capacities : Capacities) (t : EntryType) :
    Fates.Account {} [] ((Recorder.new capacities).buffer t) := by
  have hempty := Recorder.entries_new capacities t
  refine ⟨List.sublist_nil.mpr hempty, ?_, ?_, List.nil_suffix⟩
  · simp [hempty]
  · cases t <;> rfl

theorem ascending_storedOf (hc : c.Attested r) (t : EntryType) :
    (c.storedOf t).Pairwise fun x y => x.sequence < y.sequence :=
  (ascending_stored hc).sublist List.filter_sublist

theorem account (hc : c.Attested (.new capacities)) (t : EntryType) :
    (c.fates t (.new capacities) {}).Account (c.storedOf t) ((c.replay (.new capacities)).buffer t) :=
  account_replay (account_new capacities t) (fits_new capacities t) hc (ascending_storedOf hc t)

theorem accounts (hc : c.Attested (.new capacities)) :
    (c.replay (.new capacities)).Accounts capacities c where
  numbered n e a h := by
    have hnumbered := numbered hc h
    rwa [show (Recorder.new capacities).sequence = 0 from rfl, Nat.zero_add] at hnumbered
  typed t := by
    rw [Recorder.select_none]
    exact (ordered_replay capacities c).typed t
  bounded t e he := by
    rw [Recorder.select_none] at he
    have hle := (ordered_replay capacities c).le_counter t e he
    rwa [sequence_replay, show (Recorder.new capacities).sequence = 0 from rfl, Nat.zero_add] at hle
  fits t n hn := by
    rw [Recorder.size_eq]
    exact fits_replay capacities c t n ((capacity_replay capacities c t).trans hn)
  kept t := by
    rw [Recorder.select_none]
    exact (account hc t).kept
  shared t := by
    rw [Recorder.select_none]
    exact (account hc t).shared
  once t := by
    rw [Recorder.select_none]
    exact (account hc t).shared.nodup (nodup_of_ascending (ascending_storedOf hc t))
  counted t := by
    rw [Recorder.dropped_eq]
    exact (account hc t).counted
  recent t := (account hc t).recent

end Chronicle

namespace Timeline

variable {ε : Type}

/-- Whatever is done with a new timeline, by callbacks in the middle of reports as well, its recorder
accounts for all reports: they are numbered in the order in which they began, and what they stored is
retained in its place, was cleared, or was dropped. -/
theorem reports_accounted (hooks : Hooks ε) (plan : ObserverId → Timeline ε → List Operation) (depth : Nat)
    (capacities : Capacities) (host : ε) (ops : List Operation) :
    ∃ c : Chronicle,
      Chronicles (hooks.Calls plan depth) (hooks.planned plan depth) (new capacities host) ops c ∧
      c.Attested (.new capacities) ∧
      c.replay (.new capacities) =
        ((new capacities host).run (hooks.planned plan depth) ops).recorder ∧
      ((new capacities host).run (hooks.planned plan depth) ops).recorder.Accounts capacities c := by
  obtain ⟨c, hchronicles, hc, hend⟩ :=
    chronicle_run (hooks.operating_planned plan depth) (new capacities host) ops
  refine ⟨c, hchronicles, hc, hend, ?_⟩
  rw [← hend]
  exact Chronicle.accounts hc

end Timeline

end PerfTimeline
