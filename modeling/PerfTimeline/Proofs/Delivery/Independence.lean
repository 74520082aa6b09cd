import PerfTimeline.Proofs.Timeline.Coupling

/-!
# Delivery does not depend on retention

What the recorder keeps is no matter to those that listen. Two timelines are alike when they agree on
everything but the stored entries: on what was told and answered so far, on the observers, on who is registered,
and on the number that comes next. As long as nobody asks for stored entries, alike timelines stay alike,
whatever their capacities and wherever one of them removes entries (`Alike.narrate`). An entry that is evicted
or refused at once is numbered and offered like any other.
-/

namespace PerfTimeline

namespace Deed

/-- Whether a deed makes the recorder forget something, and does nothing else. -/
def forgets : Deed → Bool
  | operate (.clear ..) | operate .clearAll | operate .resetDropped | operate .clearCounts => true
  | _ => false

/-- Whether a deed asks for entries that are stored already. -/
def backfills : Deed → Bool
  | operate (.observeOne _ _ options) => options.buffered
  | _ => false

end Deed

/-- Of a recorder, the number given out last and nothing else. -/
def Recorder.unstored (r : Recorder) : Recorder := { capacities := .const none, sequence := r.sequence }

/-- A timeline without its host and without what its recorder keeps. -/
def Timeline.unstored {ε : Type} (tl : Timeline ε) : Timeline Unit :=
  { tl.bare with recorder := tl.recorder.unstored }

/-- Whether a trace event is about what becomes of stored entries. -/
def TraceEvent.isOfStorage : TraceEvent → Bool
  | evicted .. | cleared .. => true
  | _ => false

/-- What a deed is answered, unless it only makes the recorder forget. -/
def Moment.answer? : Moment → Option (Deed × Answer)
  | ended d _ a _ => if d.forgets then none else some (d, a)
  | _ => none

/-- The answers in a narrative, each behind its deed. -/
def Narrative.answers (n : Narrative) : List (Deed × Answer) := n.filterMap Moment.answer?

/-- What is left of a moment without regard to storage. -/
def Moment.unstored? : Moment → Option Moment
  | incident (.traced event) => if event.isOfStorage then none else some (.incident (.traced event))
  | incident i => some (.incident i)
  | begun d before => if d.forgets then none else some (.begun d before.unstored)
  | ended d before a after =>
    if d.forgets then none else some (.ended d before.unstored a after.unstored)

namespace Timeline

/-- Nothing but the stored entries, and what was told of them, sets one timeline apart from the other. -/
structure Alike (tl tl' : Timeline Narrative) : Prop where
  told : tl.host.filterMap Moment.unstored? = tl'.host.filterMap Moment.unstored?
  unstored : tl.unstored = tl'.unstored

variable {tl tl' : Timeline Narrative}

namespace Alike

theorem symm (h : Alike tl tl') : Alike tl' tl := ⟨h.told.symm, h.unstored.symm⟩

theorem observer? (h : Alike tl tl') (o : ObserverId) : tl.observer? o = tl'.observer? o :=
  congrArg (·.observer? o) h.unstored

/-- What does not depend on storage in a moment comes to the same. -/
theorem filterMap (h : Alike tl tl') {α : Type} {f : Moment → Option α}
    (hf : ∀ m, m.unstored?.bind f = f m) : tl.host.filterMap f = tl'.host.filterMap f := by
  have hunstored (n : Narrative) : n.filterMap f = (n.filterMap Moment.unstored?).filterMap f := by
    rw [List.filterMap_filterMap, funext hf]
  rw [hunstored, h.told, ← hunstored]

theorem answers (h : Alike tl tl') : tl.host.answers = tl'.host.answers := by
  refine h.filterMap fun m => ?_
  cases m with
  | incident i => cases i <;> simp [Moment.answer?, Moment.unstored?]
  | begun d before => cases hd : d.forgets <;> simp [Moment.answer?, Moment.unstored?, hd]
  | ended d before a after => cases hd : d.forgets <;> simp [Moment.answer?, Moment.unstored?, hd]

theorem requested (h : Alike tl tl') : tl.host.requested = tl'.host.requested := by
  refine h.filterMap fun m => ?_
  cases m with
  | incident i =>
    cases i with
    | traced event => cases hs : event.isOfStorage <;> simp [Moment.requested?, Moment.unstored?, hs]
    | scheduled priority o => rfl
    | called o => rfl
  | begun d before => cases hd : d.forgets <;> simp [Moment.requested?, Moment.unstored?, hd]
  | ended d before a after => cases hd : d.forgets <;> simp [Moment.requested?, Moment.unstored?, hd]

end Alike

end Timeline

/-! ### Storage -/

theorem Buffer.append_isOfStorage (b : Buffer) (e : Entry) :
    ∀ event ∈ (b.append e).2, event.isOfStorage = true := by
  intro event hevent
  obtain ⟨name, k, rfl⟩ := b.append_snd_entryType e event hevent
  rfl

namespace Recorder

/-- Beside the evictions, only the entry is told, with its number. -/
theorem append_unstored (r : Recorder) (e : Entry) :
    (r.append e).2.2.filter (!·.isOfStorage) = [.reported (e.withSequence (r.sequence + 1))] := by
  have hnone : (((r.buffer e.entryType).append (e.withSequence (r.sequence + 1))).2).filter
      (!·.isOfStorage) = [] :=
    List.filter_eq_nil_iff.mpr fun event hevent => by
      simp [Buffer.append_isOfStorage _ _ event hevent]
  rw [append_events, List.filter_append, hnone]
  rfl

theorem clear_unstored (r : Recorder) (t : EntryType) (name : Option String) :
    (r.clear t name).2.filter (!·.isOfStorage) = [] := by
  rw [clear_snd]
  cases r.buffers.get t <;> rfl

theorem clearAll_unstored (r : Recorder) : r.clearAll.2.filter (!·.isOfStorage) = [] := by
  rw [clearAll_snd, List.filter_flatMap]
  simp only [clear_unstored]
  rfl

end Recorder

/-! ### Recorders side by side -/

/-- Nothing but the stored entries, and what was told of them, sets one recorder apart from the other. -/
structure Recorder.Alike (r : Recorder) (n : Narrative) (r' : Recorder) (n' : Narrative) : Prop where
  told : n.filterMap Moment.unstored? = n'.filterMap Moment.unstored?
  unstored : r.unstored = r'.unstored

theorem Timeline.alike_iff_paired {tl tl' : Timeline Narrative} : tl.Alike tl' ↔ tl.Paired Recorder.Alike tl' := by
  constructor
  · intro h
    exact ⟨⟨h.told, congrArg (·.recorder) h.unstored⟩,
      congrArg (fun t : Timeline Unit => { t with recorder := .new (.const none) }) h.unstored⟩
  · intro h
    refine ⟨h.related.told, ?_⟩
    have hframe : { tl.frame with recorder := tl.recorder.unstored } =
        { tl'.frame with recorder := tl'.recorder.unstored } := by rw [h.frame, h.related.unstored]
    exact hframe

namespace Recorder.Alike

variable {r r' : Recorder} {n n' : Narrative}

theorem sequence (h : Alike r n r' n') : r.sequence = r'.sequence := congrArg (·.sequence) h.unstored

/-- The same is told on both sides, but for what is told of storage. -/
theorem append (h : Alike r n r' n') {ms ms' : Narrative}
    (hms : ms.filterMap Moment.unstored? = ms'.filterMap Moment.unstored?) : Alike r (n ++ ms) r' (n' ++ ms') := by
  refine ⟨?_, h.unstored⟩
  rw [List.filterMap_append, List.filterMap_append, h.told, hms]

/-- The recorder changes on both sides, and what is told of it differs in storage only. -/
theorem record (h : Alike r n r' n') {next next' : Recorder} {events events' : List TraceEvent}
    (hsequence : next.sequence = next'.sequence)
    (htold : events.filter (!·.isOfStorage) = events'.filter (!·.isOfStorage)) :
    Alike next (n ++ (events.map .traced).map .incident) next' (n' ++ (events'.map .traced).map .incident) := by
  have htold' (events : List TraceEvent) :
      ((events.map .traced).map .incident).filterMap Moment.unstored? =
        ((events.filter (!·.isOfStorage)).map .traced).map .incident := by
    induction events with
    | nil => rfl
    | cons e events ih =>
      rw [List.map_cons, List.map_cons, List.filterMap_cons, ih]
      cases he : e.isOfStorage <;> simp [Moment.unstored?, he]
  have hnumbered : Alike next n next' n' := by
    refine ⟨h.told, ?_⟩
    unfold Recorder.unstored
    rw [hsequence]
  refine hnumbered.append ?_
  rw [htold', htold', htold]

end Recorder.Alike

/-- Storage apart, nothing is told but the entry that is reported. -/
theorem Operation.events_unstored {op : Operation} (hforgets : (Deed.operate op).forgets = false) (r : Recorder) :
    (op.events r).filter (!·.isOfStorage) =
      (op.reported?.map fun e => .reported (e.withSequence (r.sequence + 1))).toList := by
  cases op with
  | report e => exact r.append_unstored e
  | reportEvent name start duration timing => exact (r.countEvent name).append_unstored _
  | clear t name => cases hforgets
  | clearAll => cases hforgets
  | _ => rfl

theorem Recorder.coupling_alike :
    Recorder.Coupling (fun d => d.forgets = false ∧ d.backfills = false) Recorder.Alike where
  sequence h := h.sequence
  incidents h _ := h.append rfl
  record h hop := by
    refine h.record ?_ ?_
    · rw [sequence_onRecorder_eq, sequence_onRecorder_eq, h.sequence]
    · rw [Operation.events_unstored hop.1, Operation.events_unstored hop.1, h.sequence]
  select _ hop hbuffered := absurd (hbuffered.symm.trans hop.2) (by decide)
  begun {tl tl' d} h hd := by
    have hbefore : tl.bare.unstored = tl'.bare.unstored := (Timeline.alike_iff_paired.mpr h).unstored
    exact h.related.append (by simp only [List.filterMap_cons, Moment.unstored?, hbefore])
  ended {before before' tl tl' d} hpaired h hd a := by
    have hbefore : before.bare.unstored = before'.bare.unstored := (Timeline.alike_iff_paired.mpr hpaired).unstored
    have hafter : tl.bare.unstored = tl'.bare.unstored := (Timeline.alike_iff_paired.mpr h).unstored
    exact h.related.append (by simp only [List.filterMap_cons, Moment.unstored?, hbefore, hafter])

namespace Timeline.Alike

variable {hooks hooks' : Hooks Narrative} {tl tl' : Timeline Narrative}

/-- What is forgotten makes no difference, and nothing of it is told. -/
theorem act_of_forgets (ht : hooks.trace = Hooks.scribe.trace) (h : Alike tl tl') {d : Deed}
    (hforgets : d.forgets = true) : Alike tl (tl'.act hooks d).1 := by
  have hpaired := alike_iff_paired.mp h
  have recorded (next : Recorder × List TraceEvent) (hsequence : next.1.sequence = tl'.recorder.sequence)
      (htold : next.2.filter (!·.isOfStorage) = []) : Alike tl (tl'.record hooks next) := by
    have hnumber : tl.recorder.sequence = next.1.sequence := hpaired.related.sequence.trans hsequence.symm
    have hnothing : Recorder.Alike tl.recorder (tl.host ++ (([] : List TraceEvent).map .traced).map .incident)
        next.1 (tl'.host ++ (next.2.map .traced).map .incident) := hpaired.related.record hnumber htold.symm
    rw [List.map_nil, List.map_nil, List.append_nil] at hnothing
    rw [record_of_trace ht, record_scribe]
    exact alike_iff_paired.mpr ⟨hnothing, hpaired.frame⟩
  cases d with
  | offer os e => cases hforgets
  | operate op =>
    cases op with
    | clear t name => exact recorded _ (Recorder.sequence_clear ..) (Recorder.clear_unstored ..)
    | clearAll => exact recorded _ (Recorder.sequence_clearAll _) (Recorder.clearAll_unstored _)
    | resetDropped => exact ⟨h.told, h.unstored⟩
    | clearCounts => exact ⟨h.told, h.unstored⟩
    | _ => cases hforgets

/-! ### Runs -/

/-- The recorder forgets something on one side, and nothing of it is told. -/
theorem tell_of_forgets (ht : hooks.trace = Hooks.scribe.trace) (h : Alike tl tl') {d : Deed}
    (hforgets : d.forgets = true) : Alike tl (tl'.tell hooks d) := by
  have skip {t t' : Timeline Narrative} (h : Alike t t') {m : Moment} (hm : m.unstored? = none) :
      Alike t (t'.note m) := by
    refine ⟨?_, h.unstored⟩
    show _ = (t'.host ++ [m]).filterMap Moment.unstored?
    rw [h.told, List.filterMap_append, List.filterMap_cons_none hm, List.filterMap_nil, List.append_nil]
  have hbegun : Alike tl (tl'.note (.begun d tl'.bare)) := skip h (by simp [Moment.unstored?, hforgets])
  exact skip (hbegun.act_of_forgets ht hforgets) (by simp [Moment.unstored?, hforgets])

theorem narrate_of_forgets (ht : hooks.trace = Hooks.scribe.trace) {ds : List Deed}
    (hds : ∀ d ∈ ds, d.forgets = true) (h : Alike tl tl') : Alike tl (tl'.narrate hooks ds) := by
  induction ds generalizing tl' with
  | nil => exact h
  | cons d ds ih =>
    refine ih (fun d hd => hds d (List.mem_cons_of_mem _ hd)) ?_
    exact h.tell_of_forgets ht (hds d List.mem_cons_self)

/-- The same is done on both sides, with more or less forgotten in between. -/
theorem narrate (hc : hooks.Coupled Recorder.Alike hooks') {ds ds' : List Deed}
    (hds : ds.filter (!·.forgets) = ds'.filter (!·.forgets)) (hbackfills : ∀ d ∈ ds, d.backfills = false)
    (h : Alike tl tl') : Alike (tl.narrate hooks ds) (tl'.narrate hooks' ds') := by
  induction ds generalizing tl tl' ds' with
  | nil =>
    refine h.narrate_of_forgets hc.tells'.trace fun d hd => ?_
    have hnone := List.filter_eq_nil_iff.mp hds.symm d hd
    simpa using hnone
  | cons d ds ih =>
    have hrest : ∀ d ∈ ds, d.backfills = false := fun d hd => hbackfills d (List.mem_cons_of_mem _ hd)
    cases hd : d.forgets with
    | true =>
      rw [List.filter_cons_of_neg (by simp [hd])] at hds
      exact ih hds hrest (h.symm.tell_of_forgets hc.tells.trace hd).symm
    | false =>
      rw [List.filter_cons_of_pos (by simp [hd])] at hds
      obtain ⟨skipped, ds'', rfl, hskipped, -, hds⟩ := List.filter_eq_cons_iff.mp hds.symm
      have hcaught : Alike tl (tl'.narrate hooks' skipped) :=
        h.narrate_of_forgets hc.tells'.trace fun d hd => by simpa using hskipped d hd
      have hnext : Alike (tl.tell hooks d) ((tl'.narrate hooks' skipped).tell hooks' d) :=
        alike_iff_paired.mpr ((alike_iff_paired.mp hcaught).tell Recorder.coupling_alike hc
          ⟨hd, hbackfills d List.mem_cons_self⟩)
      have hsplit : tl'.narrate hooks' (skipped ++ d :: ds'') =
          (((tl'.narrate hooks' skipped).tell hooks' d).narrate hooks' ds'') := List.foldl_append
      rw [hsplit]
      exact ih hds.symm hrest hnext

end Timeline.Alike

/-- On alike timelines two plans do the same, but for what they make the recorder forget, and neither asks for
stored entries. -/
structure Plan.Concur (plan plan' : Plan) : Prop where
  same {tl tl' : Timeline Narrative} (o : ObserverId) (h : tl.Alike tl') :
    (plan o tl).filter (!·.forgets) = (plan' o tl').filter (!·.forgets)
  unbuffered (o : ObserverId) (tl : Timeline Narrative) : ∀ d ∈ plan o tl, d.backfills = false

theorem Plan.Concur.narrated {plan plan' : Plan} (h : plan.Concur plan') (depth : Nat) :
    (Hooks.narrated plan depth).Coupled Recorder.Alike (.narrated plan' depth) := by
  refine .narrated Recorder.coupling_alike (fun hc o tl tl' hpaired => ?_) depth
  have halike := Timeline.alike_iff_paired.mpr hpaired
  exact Timeline.alike_iff_paired.mp (halike.narrate hc (h.same o halike) (h.unbuffered o _))

namespace Timeline

variable {plan plan' : Plan} {ds ds' : List Deed}

/-- Two runs that do the same but for what they make the recorder forget, and that nowhere ask for stored
entries, go the same way for everybody who listens, whatever the capacities: the same answers, with the same
numbers, the same requests to be dispatched and, where each deed begins and ends and at last, the same
observers. -/
theorem delivery_independent (hplan : plan.Concur plan') (depth : Nat)
    (hds : ds.filter (!·.forgets) = ds'.filter (!·.forgets)) (hbackfills : ∀ d ∈ ds, d.backfills = false)
    (capacities capacities' : Capacities) :
    let tl := (new capacities []).narrate (.narrated plan depth) ds
    let tl' := (new capacities' []).narrate (.narrated plan' depth) ds'
    tl.Alike tl' ∧ tl.host.answers = tl'.host.answers ∧ tl.host.requested = tl'.host.requested ∧
      ∀ o, tl.observer? o = tl'.observer? o := by
  intro tl tl'
  have hnew : Alike (new capacities []) (new capacities' []) := ⟨rfl, rfl⟩
  have h : Alike tl tl' := hnew.narrate (hplan.narrated depth) hds hbackfills
  exact ⟨h, h.answers, h.requested, h.observer?⟩

/-- Marks are refused on one side and kept on the other. The callback reports one itself. -/
theorem delivery_independent_of_room :
    let plan : Plan := fun _ _ => [.operate .clearAll, .operate (.report (.mark "echo" .zero))]
    let plan' : Plan := fun _ _ => [.operate (.report (.mark "echo" .zero)), .operate .resetDropped]
    let ds : List Deed := [.operate (.create 2 .direct), .operate (.observeMany 0 [.mark]),
      .operate (.report (.mark "a" .zero)), .operate (.clear .mark none), .operate (.take 0 false)]
    let ds' : List Deed := ds.filter (!·.forgets)
    let tl := (new (.const (some 0)) []).narrate (.narrated plan 1) ds
    let tl' := (new (.const none) []).narrate (.narrated plan' 1) ds'
    plan.Concur plan' ∧ ds.filter (!·.forgets) = ds'.filter (!·.forgets) ∧
      (∀ d ∈ ds, d.backfills = false) ∧ tl.Alike tl' ∧
      tl.recorder.size .mark = 0 ∧ tl'.recorder.size .mark = 2 ∧
      tl.host.answers.getLast? = some (.operate (.take 0 false),
        .records [(Entry.mark "a" .zero).withSequence 1, (Entry.mark "echo" .zero).withSequence 2]) := by
  intro plan plan' ds ds' tl tl'
  have hplan : plan.Concur plan' := ⟨fun _ _ => rfl, fun _ _ => by decide⟩
  have hds : ds.filter (!·.forgets) = ds'.filter (!·.forgets) := rfl
  have h := delivery_independent hplan 1 hds (by decide) (.const (some 0)) (.const none)
  exact ⟨hplan, hds, by decide, h.1, by decide, by decide, by decide⟩

end Timeline

end PerfTimeline
