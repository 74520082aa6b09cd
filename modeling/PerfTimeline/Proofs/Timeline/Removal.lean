import PerfTimeline.Proofs.Module.Queries
import PerfTimeline.Proofs.Timeline.TypeIsolation

/-!
# Removals

Since each buffer holds entries of its own type only, a removal leaves out of the whole recorder the entries
that it selects, wherever they are stored (`onRecorder_eq_omitting`), and removals one after another leave out
what any of them selects. From this come the laws of removals: their order does not matter, nor do repetitions,
and the names of a type, or the types, may be cleared one by one.
-/

namespace PerfTimeline

namespace Operation

def isRemoval : Operation → Bool
  | clear .. | clearAll => true
  | _ => false

/-- The entries that a removal is meant for. -/
def selects : Operation → Entry → Bool
  | clear t name, e => e.entryType = t && e.isNamed name
  | clearAll, _ => true
  | _, _ => false

/-- The recorder after some operations. -/
def onRecorderAll (ops : List Operation) (r : Recorder) : Recorder :=
  ops.foldl (fun r op => op.onRecorder r) r

end Operation

/-! ### Leaving entries out -/

def Buffer.omitting (b : Buffer) (gone : Entry → Bool) : Buffer :=
  { b with entries := b.entries.filter fun e => !gone e }

/-- The recorder omitting those entries that are `gone`. -/
def Recorder.omitting (r : Recorder) (gone : Entry → Bool) : Recorder :=
  { r with buffers := r.buffers.map (Option.map (·.omitting gone)) }

namespace Buffer

theorem omitting_congr {b : Buffer} {gone gone' : Entry → Bool} (h : ∀ e ∈ b.entries, gone e = gone' e) :
    b.omitting gone = b.omitting gone' := by
  unfold omitting
  rw [List.filter_congr fun e he => by rw [h e he]]

theorem omitting_omitting (b : Buffer) (gone gone' : Entry → Bool) :
    (b.omitting gone).omitting gone' = b.omitting fun e => gone e || gone' e := by
  simp [omitting, Bool.and_comm]

theorem omitting_nothing (b : Buffer) : b.omitting (fun _ => false) = b := by
  have hall : (b.entries.filter fun _ => !false) = b.entries := List.filter_eq_self.mpr fun _ _ => rfl
  rw [omitting, hall]

theorem select_omitting (b : Buffer) (gone : Entry → Bool) (name : Option String) :
    (b.omitting gone).select name = (b.select name).filter fun e => !gone e := by
  simp [omitting, select, Bool.and_comm]

end Buffer

namespace Recorder

variable {r : Recorder} {gone gone' : Entry → Bool} {t : EntryType}

theorem get_omitting (r : Recorder) (gone : Entry → Bool) (t : EntryType) :
    (r.omitting gone).buffers.get t = (r.buffers.get t).map (·.omitting gone) := PerType.get_map ..

theorem buffer_omitting (r : Recorder) (gone : Entry → Bool) (t : EntryType) :
    (r.omitting gone).buffer t = (r.buffer t).omitting gone := by
  unfold buffer
  rw [get_omitting]
  cases r.buffers.get t <;> rfl

theorem select_omitting (r : Recorder) (gone : Entry → Bool) (t : EntryType) (name : Option String) :
    (r.omitting gone).select t name = (r.select t name).filter fun e => !gone e := by
  rw [select_eq, select_eq, buffer_omitting, Buffer.select_omitting]

theorem omitting_omitting (r : Recorder) (gone gone' : Entry → Bool) :
    (r.omitting gone).omitting gone' = r.omitting fun e => gone e || gone' e := by
  refine eq_of_get rfl (fun t => ?_) rfl rfl
  rw [get_omitting, get_omitting, get_omitting, Option.map_map]
  exact congrArg (Option.map · _) (funext fun b => b.omitting_omitting gone gone')

theorem omitting_nothing (r : Recorder) : r.omitting (fun _ => false) = r := by
  refine eq_of_get rfl (fun t => ?_) rfl rfl
  rw [get_omitting, funext Buffer.omitting_nothing, Option.map_id']

/-- It only matters which of the retained entries go. -/
theorem omitting_congr (h : ∀ t, ∀ e ∈ (r.buffer t).entries, gone e = gone' e) :
    r.omitting gone = r.omitting gone' := by
  refine eq_of_get rfl (fun t => ?_) rfl rfl
  rw [get_omitting, get_omitting]
  have ht := h t
  unfold buffer at ht
  cases hb : r.buffers.get t with
  | none => rfl
  | some b =>
    rw [hb] at ht
    exact congrArg some (Buffer.omitting_congr ht)

theorem Ordered.omitting (h : r.Ordered) (gone : Entry → Bool) : (r.omitting gone).Ordered := by
  refine h.of_sublist rfl fun t => ?_
  rw [buffer_omitting]
  exact List.filter_sublist

/-! ### Removals leave entries out -/

theorem get_clearAll (r : Recorder) (t : EntryType) :
    r.clearAll.1.buffers.get t = (r.buffers.get t).map (·.clear none) := by
  rw [clearAll_fst, get_foldl_clear, if_pos t.mem_all]

theorem Ordered.clear_eq_omitting (h : r.Ordered) (t : EntryType) (name : Option String) :
    (r.clear t name).1 = r.omitting ((Operation.clear t name).selects) := by
  refine eq_of_get (capacities_clear r t name) (fun u => ?_) (sequence_clear r t name) (counts_clear r t name)
  have htyped := h.typed u
  unfold buffer at htyped
  rw [get_clear, get_omitting]
  cases hb : r.buffers.get u with
  | none => simp
  | some b =>
    rw [hb] at htyped
    by_cases hu : t = u
    · rw [if_pos hu]
      refine congrArg some (Buffer.omitting_congr fun e he => ?_)
      simp [Operation.selects, htyped e he, hu]
    · rw [if_neg hu]
      have hnone : ∀ e ∈ b.entries, (Operation.clear t name).selects e = false := by
        intro e he
        simp [Operation.selects, htyped e he, Ne.symm hu]
      exact congrArg some ((Buffer.omitting_congr hnone).trans b.omitting_nothing).symm

theorem clearAll_eq_omitting (r : Recorder) : r.clearAll.1 = r.omitting Operation.clearAll.selects := by
  refine eq_of_get (capacities_onRecorder .clearAll r) (fun t => ?_) (sequence_clearAll r) (counts_clearAll r)
  rw [get_clearAll, get_omitting]
  exact congrArg (Option.map · _) (funext fun b => Buffer.omitting_congr fun e _ => rfl)

theorem Ordered.onRecorder_eq_omitting (h : r.Ordered) {op : Operation} (hop : op.isRemoval = true) :
    op.onRecorder r = r.omitting op.selects := by
  cases op with
  | clear t name => exact h.clear_eq_omitting t name
  | clearAll => exact r.clearAll_eq_omitting
  | _ => cases hop

/-- Removals one after another leave out what any of them selects. -/
theorem Ordered.onRecorderAll_eq_omitting (h : r.Ordered) {ops : List Operation}
    (hops : ∀ op ∈ ops, op.isRemoval = true) :
    Operation.onRecorderAll ops r = r.omitting fun e => ops.any (·.selects e) := by
  induction ops generalizing r with
  | nil => exact r.omitting_nothing.symm
  | cons op ops ih =>
    obtain ⟨hop, hrest⟩ := List.forall_mem_cons.mp hops
    show Operation.onRecorderAll ops (op.onRecorder r) = _
    rw [h.onRecorder_eq_omitting hop, ih (h.omitting _) hrest, omitting_omitting]
    rfl

/-- Removals that select the same among the retained entries lead to the same recorder. -/
theorem Ordered.onRecorderAll_congr (h : r.Ordered) (ops ops' : List Operation)
    (hops : ∀ op ∈ ops, op.isRemoval = true) (hops' : ∀ op ∈ ops', op.isRemoval = true)
    (hsame : ∀ t, ∀ e ∈ (r.buffer t).entries, ops.any (·.selects e) = ops'.any (·.selects e)) :
    Operation.onRecorderAll ops r = Operation.onRecorderAll ops' r := by
  rw [h.onRecorderAll_eq_omitting hops, h.onRecorderAll_eq_omitting hops', omitting_congr hsame]

/-! ### Queries -/

/-- It makes no difference whether entries are left out before or after sorting. -/
theorem selectSorted_omitting (r : Recorder) (gone : Entry → Bool) (types : List EntryType)
    (name : Option String) :
    (r.omitting gone).selectSorted types name = (r.selectSorted types name).filter fun e => !gone e := by
  have hselect : (types.flatMap fun t => (r.omitting gone).select t name) =
      (types.flatMap fun t => r.select t name).filter fun e => !gone e := by
    rw [List.filter_flatMap]
    exact congrArg (types.flatMap ·) (funext fun t => select_omitting r gone t name)
  unfold selectSorted
  rw [hselect, Entry.filter_sort]

/-! ### The laws of removals -/

/-- What holds of the removals from a recorder as it stands. -/
structure Removing (r : Recorder) : Prop where
  select {op : Operation} (hop : op.isRemoval = true) (t : EntryType) (name : Option String) :
    (op.onRecorder r).select t name = (r.select t name).filter fun e => !op.selects e
  selectSorted {op : Operation} (hop : op.isRemoval = true) (types : List EntryType)
    (name : Option String) :
    (op.onRecorder r).selectSorted types name = (r.selectSorted types name).filter fun e => !op.selects e
  again {op : Operation} (hop : op.isRemoval = true) :
    op.onRecorder (op.onRecorder r) = op.onRecorder r
  commute {op op' : Operation} (hop : op.isRemoval = true) (hop' : op'.isRemoval = true) :
    op.onRecorder (op'.onRecorder r) = op'.onRecorder (op.onRecorder r)
  /-- In whatever order, and also if other names are cleared in between. -/
  byName (t : EntryType) (names : List String) (hnames : ∀ e ∈ r.select t none, e.name ∈ names) :
    Operation.onRecorderAll (names.map fun n => .clear t (some n)) r = (Operation.clear t none).onRecorder r
  byType {types : List EntryType} (htypes : types.Perm EntryType.all) :
    Operation.onRecorderAll (types.map fun t => .clear t none) r = Operation.clearAll.onRecorder r
  /-- The buffer of another type is not touched. -/
  otherTypes {t u : EntryType} (hu : u ≠ t) (name : Option String) :
    ((Operation.clear t name).onRecorder r).buffers.get u = r.buffers.get u
  sequence {op : Operation} (hop : op.isRemoval = true) : (op.onRecorder r).sequence = r.sequence
  counts {op : Operation} (hop : op.isRemoval = true) : (op.onRecorder r).counts = r.counts
  dropped {op : Operation} (hop : op.isRemoval = true) (t : EntryType) :
    (op.onRecorder r).dropped t = r.dropped t

theorem Ordered.removing (h : r.Ordered) : r.Removing where
  select hop t name := by rw [h.onRecorder_eq_omitting hop, select_omitting]
  selectSorted hop types name := by
    rw [h.onRecorder_eq_omitting hop, selectSorted_omitting]
  again {op} hop :=
    h.onRecorderAll_congr [op, op] [op] (by simp [hop]) (by simp [hop]) fun t e _ => by simp
  commute {op op'} hop hop' :=
    h.onRecorderAll_congr [op', op] [op, op'] (by simp [hop, hop']) (by simp [hop, hop'])
      fun t e _ => by simp [Bool.or_comm]
  byName t names hnames := by
    refine h.onRecorderAll_congr _ [.clear t none] ?_ (by simp [Operation.isRemoval]) ?_
    · exact List.forall_mem_map.mpr fun n _ => rfl
    · intro u e he
      have htype := h.typed u e he
      rw [List.any_map]
      by_cases hu : u = t
      · subst hu
        rw [select_none] at hnames
        have hname : names.any (fun n => e.name == n) = true :=
          List.any_eq_true.mpr ⟨e.name, hnames e he, beq_self_eq_true e.name⟩
        simpa [Operation.selects, Entry.isNamed, htype, Function.comp_def] using hname
      · simp [Operation.selects, htype, hu, Function.comp_def]
  byType {types} htypes := by
    refine h.onRecorderAll_congr _ [.clearAll] ?_ (by simp [Operation.isRemoval]) ?_
    · exact List.forall_mem_map.mpr fun t _ => rfl
    · intro u e _
      have htype : e.entryType ∈ types := htypes.mem_iff.mpr e.entryType.mem_all
      simpa [Operation.selects, Entry.isNamed] using htype
  otherTypes hu name := by
    show (r.clear _ name).1.buffers.get _ = _
    rw [get_clear, if_neg (Ne.symm hu)]
  sequence hop := by rw [h.onRecorder_eq_omitting hop]; rfl
  counts hop := by rw [h.onRecorder_eq_omitting hop]; rfl
  dropped hop t := by
    rw [h.onRecorder_eq_omitting hop, dropped_eq, dropped_eq, buffer_omitting]
    rfl

end Recorder

namespace Timeline

variable {ε : Type} {capacities : Capacities}

/-- Removals keep to their laws in every state, and beside the recorder only the host, which hears of them, is not
as before. The observers are: what they have pending, how they stand, and what was copied for them. -/
theorem removals_exact {tl : Timeline ε} (h : tl.recorder.Reachable capacities) (hooks : Hooks ε) :
    tl.recorder.Removing ∧ ∀ op : Operation, op.isRemoval = true →
      (∃ host, (tl.perform hooks op).1 = { tl with recorder := op.onRecorder tl.recorder, host }) ∧
        ∀ o, (tl.perform hooks op).1.observer? o = tl.observer? o := by
  refine ⟨h.ordered.removing, fun op hop => ?_⟩
  cases op with
  | clear t name => exact ⟨⟨_, rfl⟩, fun _ => rfl⟩
  | clearAll => exact ⟨⟨_, rfl⟩, fun _ => rfl⟩
  | _ => cases hop

/-- Two names, one of them also of a measure, and an observer with copies of the marks. -/
theorem removals_exact_two_names :
    let ops : List Operation := [.create 9 .direct, .report (.mark "a" .zero), .report (.mark "b" .zero),
      .report (.measure "a" .zero .zero), .report (.mark "a" .zero), .observeOne 0 .mark { buffered := true }]
    let tl := (new .standard ()).run .quiet ops
    let cleared := (tl.perform .quiet (.clear .mark (some "a"))).1
    tl.recorder.Reachable .standard ∧ tl.recorder.Removing ∧
      tl.recorder.size .mark = 3 ∧
      cleared.recorder.select .mark none = [(Entry.mark "b" .zero).withSequence 2] ∧
      cleared.recorder.size .measure = 1 ∧
      Operation.onRecorderAll [.clear .mark (some "b"), .clear .mark (some "a")] tl.recorder =
        (Operation.clear .mark none).onRecorder tl.recorder ∧
      cleared.observer? 0 = tl.observer? 0 ∧ (tl.observer? 0).map (·.queue.length) = some 3 := by
  intro ops tl cleared
  have hnew : (new Capacities.standard ()).recorder.Reachable .standard := .new
  have hr : tl.recorder.Reachable .standard := reachable_run (Hooks.passive_quiet.keeps _) ops hnew
  obtain ⟨hremoving, hframe⟩ := removals_exact hr .quiet
  have hnames : ∀ e ∈ tl.recorder.select .mark none, e.name ∈ ["b", "a"] := by decide
  exact ⟨hr, hremoving, by decide, by decide, by decide, hremoving.byName .mark ["b", "a"] hnames,
    (hframe (.clear .mark (some "a")) rfl).2 0, by decide⟩

end Timeline

end PerfTimeline
