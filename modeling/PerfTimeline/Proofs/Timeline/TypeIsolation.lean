import PerfTimeline.Proofs.Module.Measuring
import PerfTimeline.Proofs.Retention.Ledger
import PerfTimeline.Proofs.Timeline.Pointwise
import PerfTimeline.Proofs.Timeline.Recording

/-!
# Entry types do not meet

Seen from one entry type, an operation is at most one change of one buffer (`get_onRecorder`), and of all
other types that change depends on the counter only. So a run without the reports and removals of the other
types leaves the same entries of the type behind under other numbers, and the capacities of the others make
no difference at all.
-/

namespace PerfTimeline

variable {t : EntryType}

/-! ### One type at a time -/

/-- What an operation does to the buffer of type `t` when `n` is the next number. -/
def Operation.changeOn (t : EntryType) (n : Nat) : Operation → Option Buffer.Change
  | report e => if e.entryType = t then some (.append (e.withSequence n)) else none
  | reportEvent name start duration timing =>
    if .event = t then some (.append ((Entry.event name start duration timing).withSequence n)) else none
  | clear u name => if u = t then some (.clear name) else none
  | clearAll => some (.clear none)
  | resetDropped => some .resetDropped
  | _ => none

/-- A change of a buffer that may not be in use yet and would start as `fresh`. Only storing takes it into
use. -/
def Buffer.Change.onSlot (fresh : Buffer) : Buffer.Change → Option Buffer → Option Buffer
  | append e, slot => some ((slot.getD fresh).append e).1
  | clear name, slot => slot.map (·.clear name)
  | resetDropped, slot => slot.map Buffer.resetDropped

namespace Recorder

theorem eq_of_get {r r' : Recorder} (hcapacities : r.capacities = r'.capacities)
    (hget : ∀ t, r.buffers.get t = r'.buffers.get t) (hsequence : r.sequence = r'.sequence)
    (hcounts : r.counts = r'.counts) : r = r' := by
  obtain ⟨capacities, buffers, sequence, counts⟩ := r
  obtain ⟨capacities', buffers', sequence', counts'⟩ := r'
  obtain rfl : buffers = buffers' := PerType.ext_get hget
  obtain rfl : capacities = capacities' := hcapacities
  obtain rfl : sequence = sequence' := hsequence
  obtain rfl : counts = counts' := hcounts
  rfl

theorem get_append (r : Recorder) (e : Entry) (t : EntryType) :
    (r.append e).1.buffers.get t =
      if e.entryType = t then some ((r.buffer t).append (e.withSequence (r.sequence + 1))).1
      else r.buffers.get t := by
  split
  · rename_i ht
    subst ht
    exact PerType.get_set_self ..
  · rename_i ht
    exact PerType.get_set_of_ne _ _ (Ne.symm ht)

theorem get_clear (r : Recorder) (u : EntryType) (name : Option String) (t : EntryType) :
    (r.clear u name).1.buffers.get t =
      if u = t then (r.buffers.get t).map (·.clear name) else r.buffers.get t := by
  unfold clear
  by_cases hu : u = t
  · subst hu
    cases hslot : r.buffers.get u with
    | none => simp [hslot]
    | some b => simp
  · cases r.buffers.get u with
    | none => simp [hu]
    | some b => simp [hu, Ne.symm hu]

theorem get_foldl_clear (types : List EntryType) (r : Recorder) (t : EntryType) :
    (types.foldl (fun r u => (r.clear u none).1) r).buffers.get t =
      if t ∈ types then (r.buffers.get t).map (·.clear none) else r.buffers.get t := by
  induction types generalizing r with
  | nil => rfl
  | cons u types ih =>
    rw [List.foldl_cons, ih, get_clear]
    by_cases hu : u = t
    · simp [hu, Option.map_map, Function.comp_def, Buffer.clear_clear_none]
    · simp [hu, Ne.symm hu]

theorem capacities_clear (r : Recorder) (u : EntryType) (name : Option String) :
    (r.clear u name).1.capacities = r.capacities := by
  unfold clear
  cases r.buffers.get u <;> rfl

theorem capacities_onRecorder (op : Operation) (r : Recorder) :
    (op.onRecorder r).capacities = r.capacities := by
  cases op with
  | clear u name => exact capacities_clear r u name
  | clearAll => simp [Operation.onRecorder, clearAll_fst, EntryType.all, capacities_clear]
  | _ => rfl

/-- An operation changes at most the buffer of one type, and does it by one change. -/
theorem get_onRecorder (r : Recorder) (op : Operation) (t : EntryType) :
    (op.onRecorder r).buffers.get t =
      (op.changeOn t (r.sequence + 1)).elim (r.buffers.get t)
        (·.onSlot (.empty t (r.capacities.get t)) (r.buffers.get t)) := by
  have stored (r : Recorder) (e : Entry) : (r.append e).1.buffers.get t =
      (if e.entryType = t then some (Buffer.Change.append (e.withSequence (r.sequence + 1)))
        else none).elim (r.buffers.get t)
          (·.onSlot (.empty t (r.capacities.get t)) (r.buffers.get t)) := by
    rw [get_append]
    split <;> rfl
  cases op with
  | report e => exact stored r e
  | reportEvent name start duration timing => exact stored (r.countEvent name) _
  | clear u name =>
    rw [Operation.onRecorder, get_clear, Operation.changeOn]
    split <;> rfl
  | clearAll =>
    rw [Operation.onRecorder, clearAll_fst, get_foldl_clear, if_pos t.mem_all]
    rfl
  | resetDropped => exact PerType.get_map ..
  | _ => rfl

theorem buffer_onRecorder (r : Recorder) (op : Operation) (t : EntryType) :
    (op.onRecorder r).buffer t =
      (op.changeOn t (r.sequence + 1)).elim (r.buffer t) (r.buffer t).perform := by
  unfold buffer
  rw [get_onRecorder, capacities_onRecorder]
  cases op.changeOn t (r.sequence + 1) with
  | none => rfl
  | some change =>
    cases change with
    | append e => rfl
    | clear name => cases r.buffers.get t <;> rfl
    | resetDropped => cases r.buffers.get t <;> rfl

end Recorder

/-! ### Runs without callbacks -/

/-- Operations on the recorder only. -/
def Operation.records : Operation → Bool
  | report _ | reportEvent .. | clear .. | clearAll | resetDropped | clearCounts => true
  | _ => false

namespace Timeline

variable {ε : Type} {hooks : Hooks ε}

/-- Nothing but the operations themselves gets at the recorder: callbacks leave it alone, or there is no
observer whose callback could be called. -/
def Undisturbed (hooks : Hooks ε) (ops : List Operation) : Prop :=
  (∀ o (tl : Timeline ε), (hooks.call o tl).recorder = tl.recorder) ∨ ∀ op ∈ ops, op.records = true

theorem report_unobserved {tl : Timeline ε} (h : tl.registry = []) (e : Entry) :
    (tl.report hooks e).1.recorder = (tl.recorder.append e).1 ∧ (tl.report hooks e).1.registry = [] := by
  have hpruned : ((tl.store hooks e).1.prune).registry = [] := by
    show tl.registry.prune _ = []
    rw [h]
    rfl
  have hreport : (tl.report hooks e).1 = (tl.store hooks e).1.prune := by
    show (tl.store hooks e).1.prune.deliver hooks _ (tl.store hooks e).1.prune.registry = _
    rw [hpruned]
    rfl
  rw [hreport]
  exact ⟨rfl, hpruned⟩

theorem perform_unobserved {tl : Timeline ε} (h : tl.registry = []) {op : Operation}
    (hop : op.records = true) :
    (tl.perform hooks op).1.recorder = op.onRecorder tl.recorder ∧
      (tl.perform hooks op).1.registry = [] := by
  cases op with
  | report e => exact report_unobserved h e
  | reportEvent name start duration timing =>
    have hcounted : ({ tl with recorder := tl.recorder.countEvent name } : Timeline ε).registry = [] := h
    exact report_unobserved hcounted _
  | clear u name => exact ⟨rfl, h⟩
  | clearAll => exact ⟨rfl, h⟩
  | resetDropped => exact ⟨rfl, h⟩
  | clearCounts => exact ⟨rfl, h⟩
  | _ => cases hop

theorem recorder_run_of_step {P : Timeline ε → Prop} {ops : List Operation}
    (step : ∀ tl, ∀ op ∈ ops, P tl →
      (tl.perform hooks op).1.recorder = op.onRecorder tl.recorder ∧ P (tl.perform hooks op).1)
    {tl : Timeline ε} (start : P tl) :
    (tl.run hooks ops).recorder = ops.foldl (fun r op => op.onRecorder r) tl.recorder := by
  induction ops generalizing tl with
  | nil => rfl
  | cons op ops ih =>
    obtain ⟨hrecorder, hnext⟩ := step tl op List.mem_cons_self start
    rw [run_cons, ih (fun tl op' hm => step tl op' (List.mem_cons_of_mem _ hm)) hnext, hrecorder]
    rfl

theorem recorder_run {ops : List Operation} (h : Undisturbed hooks ops) (capacities : Capacities)
    (host : ε) : ((new capacities host).run hooks ops).recorder =
      ops.foldl (fun r op => op.onRecorder r) (.new capacities) := by
  rcases h with hcall | hops
  · refine recorder_run_of_step (P := fun _ => True) (fun tl op _ _ => ⟨?_, trivial⟩) trivial
    have hkeeps : hooks.Keeps (· = op.onRecorder tl.recorder) := fun o tl ht => (hcall o tl).trans ht
    exact keeps_perform hkeeps op rfl
  · exact recorder_run_of_step (P := fun tl => tl.registry = [])
      (fun _ op hop ht => perform_unobserved ht (hops op hop)) rfl

end Timeline

/-! ### Other numbers -/

/-- The same entries in the same order. Their numbers may be others, but are in ascending order on both
sides. -/
structure Entry.Renumbered (es es' : List Entry) : Prop where
  same : es.map (·.withSequence 0) = es'.map (·.withSequence 0)
  ascending : es.Pairwise fun a b => a.sequence < b.sequence
  ascending' : es'.Pairwise fun a b => a.sequence < b.sequence

namespace Buffer

def unnumbered (b : Buffer) : Buffer := { b with entries := b.entries.map (·.withSequence 0) }

def Change.unnumbered : Change → Change
  | append e => append (e.withSequence 0)
  | clear name => clear name
  | resetDropped => resetDropped

theorem filter_unnumbered {p : Entry → Bool} (hp : ∀ e, p (e.withSequence 0) = p e) (es : List Entry) :
    (es.map (·.withSequence 0)).filter p = (es.filter p).map (·.withSequence 0) := by
  rw [List.filter_map]
  congr 1
  exact List.filter_congr fun e _ => hp e

/-- What a change does to a buffer does not depend on the numbers of the entries. -/
theorem unnumbered_perform (b : Buffer) (change : Change) :
    (b.perform change).unnumbered = b.unnumbered.perform change.unnumbered := by
  cases change with
  | append e =>
    have hsize : b.unnumbered.size = b.size := List.length_map ..
    have hexcess : b.unnumbered.excess = b.excess := by rw [excess, excess, hsize]; rfl
    show (b.append e).1.unnumbered = (b.unnumbered.append (e.withSequence 0)).1
    by_cases h0 : b.capacity = some 0
    · have h0' : b.unnumbered.capacity = some 0 := h0
      simp only [append, if_pos h0, if_pos h0']
      rfl
    · have h0' : b.unnumbered.capacity ≠ some 0 := h0
      simp only [append, if_neg h0, if_neg h0', hexcess]
      simp [unnumbered, List.map_drop]
  | clear name =>
    have hfilter := filter_unnumbered (p := fun e => !e.isNamed name) (fun _ => rfl) b.entries
    simp only [perform, clear, unnumbered, Change.unnumbered, hfilter]
  | resetDropped => rfl

theorem select_unnumbered (b : Buffer) (name : Option String) :
    b.unnumbered.select name = (b.select name).map (·.withSequence 0) :=
  filter_unnumbered (fun _ => rfl) b.entries

theorem findLast?_unnumbered (b : Buffer) (name : String) :
    b.unnumbered.findLast? name = (b.findLast? name).map (·.withSequence 0) := by
  simp only [findLast?, unnumbered, ← List.map_reverse, List.find?_map]
  rfl

end Buffer

/-! ### Runs without the other types -/

namespace Operation

/-- Whether an operation regards type `t`: all do but the reports and removals of other types. -/
def regards (t : EntryType) : Operation → Bool
  | report e => e.entryType = t
  | reportEvent .. => EntryType.event = t
  | clear u _ => u = t
  | _ => true

theorem changeOn_of_not_regards {op : Operation} (h : op.regards t = false) (n : Nat) :
    op.changeOn t n = none := by
  cases op with
  | report e => simpa [regards, changeOn] using h
  | reportEvent name start duration timing => simpa [regards, changeOn] using h
  | clear u name => simpa [regards, changeOn] using h
  | _ => cases h

theorem unnumbered_changeOn (op : Operation) (t : EntryType) (m n : Nat) :
    (op.changeOn t m).map Buffer.Change.unnumbered = (op.changeOn t n).map Buffer.Change.unnumbered := by
  have stored (e : Entry) (P : Prop) [Decidable P] :
      (if P then some (Buffer.Change.append (e.withSequence m)) else none).map
        Buffer.Change.unnumbered =
      (if P then some (Buffer.Change.append (e.withSequence n)) else none).map
        Buffer.Change.unnumbered := by
    split <;> rfl
  cases op with
  | report e => exact stored e _
  | reportEvent name start duration timing => exact stored _ _
  | _ => rfl

end Operation

namespace Recorder

theorem unnumbered_onRecorder {r r' : Recorder}
    (h : (r.buffer t).unnumbered = (r'.buffer t).unnumbered) (op : Operation) :
    ((op.onRecorder r).buffer t).unnumbered = ((op.onRecorder r').buffer t).unnumbered := by
  have hsame := op.unnumbered_changeOn t (r.sequence + 1) (r'.sequence + 1)
  rw [buffer_onRecorder, buffer_onRecorder]
  cases hchange : op.changeOn t (r.sequence + 1) with
  | none =>
    rw [hchange, Option.map_none, eq_comm, Option.map_eq_none_iff] at hsame
    rw [hsame]
    exact h
  | some change =>
    rw [hchange, Option.map_some, eq_comm, Option.map_eq_some_iff] at hsame
    obtain ⟨change', hchange', hsame⟩ := hsame
    rw [hchange', Option.elim_some, Option.elim_some, Buffer.unnumbered_perform,
      Buffer.unnumbered_perform, h, hsame]

/-- Operations that do not concern a type may be left out. -/
theorem unnumbered_foldl_filter {r r' : Recorder}
    (h : (r.buffer t).unnumbered = (r'.buffer t).unnumbered) (ops : List Operation) :
    ((ops.foldl (fun r op => op.onRecorder r) r).buffer t).unnumbered =
      (((ops.filter (·.regards t)).foldl (fun r op => op.onRecorder r) r').buffer t).unnumbered := by
  induction ops generalizing r r' with
  | nil => exact h
  | cons op ops ih =>
    rw [List.foldl_cons, List.filter_cons]
    cases hop : op.regards t with
    | true => exact ih (unnumbered_onRecorder h op)
    | false =>
      refine ih ?_
      rw [buffer_onRecorder, Operation.changeOn_of_not_regards hop]
      exact h

theorem Reachable.foldl {capacities : Capacities} {r : Recorder} (h : r.Reachable capacities)
    (ops : List Operation) : (ops.foldl (fun r op => op.onRecorder r) r).Reachable capacities := by
  induction ops generalizing r with
  | nil => exact h
  | cons op ops ih => exact ih (h.onRecorder op)

/-- Whatever can be asked about type `t` is answered alike, but for the numbers of the entries. -/
structure Resembles (t : EntryType) (r r' : Recorder) : Prop where
  entries (name : Option String) : Entry.Renumbered (r.select t name) (r'.select t name)
  size : r.size t = r'.size t
  dropped : r.dropped t = r'.dropped t
  markTime (h : t = .mark) (name : String) : r.markTime? name = r'.markTime? name

theorem Ordered.resembles {r r' : Recorder} (hr : r.Ordered) (hr' : r'.Ordered)
    (h : (r.buffer t).unnumbered = (r'.buffer t).unnumbered) : r.Resembles t r' where
  entries name := by
    rw [select_eq, select_eq]
    refine ⟨?_, (hr.ascending t).filter _, (hr'.ascending t).filter _⟩
    rw [← Buffer.select_unnumbered, ← Buffer.select_unnumbered, h]
  size := by
    have hsize := congrArg Buffer.size h
    rwa [Buffer.unnumbered, Buffer.unnumbered, Buffer.size, Buffer.size, List.length_map,
      List.length_map, ← Buffer.size, ← Buffer.size, ← size_eq, ← size_eq] at hsize
  dropped := by
    have hdropped : (r.buffer t).unnumbered.dropped = (r'.buffer t).unnumbered.dropped := by rw [h]
    rw [dropped_eq, dropped_eq]
    exact hdropped
  markTime ht name := by
    subst ht
    have start (b : Buffer) : (b.unnumbered.findLast? name).map (·.start) =
        (b.findLast? name).map (·.start) := by
      rw [Buffer.findLast?_unnumbered, Option.map_map]
      rfl
    rw [markTime?_eq, markTime?_eq, ← start, h, start]

/-! ### Capacities of the other types -/

/-- Nothing about type `t` tells one recorder from the other, nor does the number that comes next. -/
structure Matches (t : EntryType) (r r' : Recorder) : Prop where
  capacity : r.capacities.get t = r'.capacities.get t
  slot : r.buffers.get t = r'.buffers.get t
  sequence : r.sequence = r'.sequence

theorem sequence_onRecorder_eq (r : Recorder) (op : Operation) :
    (op.onRecorder r).sequence = r.sequence + op.reported?.toList.length := by
  cases hop : op.reported? with
  | none => exact Timeline.sequence_onRecorder hop r
  | some e =>
    obtain ⟨counts, hnext⟩ := Timeline.onRecorder_of_reported hop r
    rw [hnext]
    rfl

theorem Matches.onRecorder {r r' : Recorder} (h : r.Matches t r') (op : Operation) :
    (op.onRecorder r).Matches t (op.onRecorder r') where
  capacity := by rw [capacities_onRecorder, capacities_onRecorder, h.capacity]
  slot := by rw [get_onRecorder, get_onRecorder, h.capacity, h.slot, h.sequence]
  sequence := by rw [sequence_onRecorder_eq, sequence_onRecorder_eq, h.sequence]

theorem Matches.foldl {r r' : Recorder} (h : r.Matches t r') (ops : List Operation) :
    (ops.foldl (fun r op => op.onRecorder r) r).Matches t
      (ops.foldl (fun r op => op.onRecorder r) r') := by
  induction ops generalizing r r' with
  | nil => exact h
  | cons op ops ih => exact ih (h.onRecorder op)

end Recorder

/-! ### Isolation -/

namespace Timeline

variable {ε : Type} {hooks : Hooks ε}

theorem Undisturbed.filter {ops : List Operation} (h : Undisturbed hooks ops) (p : Operation → Bool) :
    Undisturbed hooks (ops.filter p) :=
  h.imp id fun hops op hm => hops op (List.mem_filter.mp hm).1

/-- What becomes of the entries of type `t` does not depend on other types: not on their reports and
removals, which only take numbers away, and not on their capacities. This holds at every point of a run,
since a run up to that point is a run as well. -/
theorem types_isolated {ops : List Operation} (h : Undisturbed hooks ops) (t : EntryType)
    (capacities : Capacities) (host : ε) :
    ((new capacities host).run hooks ops).recorder.Resembles t
      ((new capacities host).run hooks (ops.filter (·.regards t))).recorder ∧
    ∀ others : Capacities, others.get t = capacities.get t →
      ((new others host).run hooks ops).recorder.Matches t
        ((new capacities host).run hooks ops).recorder := by
  rw [recorder_run h, recorder_run (h.filter _)]
  constructor
  · have hnew : (Recorder.new capacities).Reachable capacities := .new
    have hreduced := hnew.foldl (ops.filter (·.regards t))
    exact (hnew.foldl ops).ordered.resembles hreduced.ordered (Recorder.unnumbered_foldl_filter rfl ops)
  · intro others hothers
    rw [recorder_run h]
    have hstart : (Recorder.new others).Matches t (.new capacities) := ⟨hothers, by cases t <;> rfl, rfl⟩
    exact hstart.foldl ops

/-- The first of two marks gives way to the second, whatever is measured around them. The capacity for
measures is another in the second part. -/
theorem types_isolated_marks_among_measures :
    let capacities : Capacities := ⟨some 1, some 1, none, none, none⟩
    let others : Capacities := ⟨some 1, some 0, none, none, none⟩
    let ops : List Operation :=
      [.report (.measure "m" .zero .zero), .report (.mark "a" .zero), .clear .measure none,
        .report (.mark "b" .zero), .report (.measure "m" .zero .zero)]
    let full := ((new capacities ()).run .quiet ops).recorder
    let reduced := ((new capacities ()).run .quiet (ops.filter (·.regards .mark))).recorder
    let resized := ((new others ()).run .quiet ops).recorder
    Undisturbed Hooks.quiet ops ∧ others.get .mark = capacities.get .mark ∧
      full.Resembles .mark reduced ∧ resized.Matches .mark full ∧
      full.select .mark none = [(Entry.mark "b" .zero).withSequence 3] ∧
      reduced.select .mark none = [(Entry.mark "b" .zero).withSequence 2] ∧
      full.dropped .mark = 1 ∧ resized.dropped .measure = 2 := by
  intro capacities others ops full reduced resized
  have hops : Undisturbed Hooks.quiet ops := .inl fun _ _ => rfl
  obtain ⟨hreduced, hresized⟩ := types_isolated hops .mark capacities ()
  exact ⟨hops, rfl, hreduced, hresized others rfl, by decide, by decide, by decide, by decide⟩

end Timeline

end PerfTimeline
