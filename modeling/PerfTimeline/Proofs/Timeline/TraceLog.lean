import Mathlib.Data.List.DropRight
import PerfTimeline.Proofs.Timeline.Accounting
import PerfTimeline.Proofs.Timeline.Narrative

/-!
# The trace accounts for the state

Who has the whole trace of a run, and knows when the drop counts were reset, knows how many entries of each type
are stored and how many were dropped: `Accounted` says how, and a run is accounted for at every moment
(`accounted_narrate`). Dispatches are requested in the trace as often as observers are dispatched.
-/

namespace PerfTimeline

variable {t : EntryType}

/-! ### Reading a trace -/

/-- Trace events, in the order in which they were told. -/
abbrev Trace := List TraceEvent

namespace TraceEvent

def isReport : TraceEvent → Bool
  | reported _ => true
  | _ => false

def isEviction : TraceEvent → Bool
  | evicted .. => true
  | _ => false

/-- How many entries were removed, if that is what the event tells. -/
def removed : TraceEvent → Nat
  | cleared _ _ n => n
  | _ => 0

end TraceEvent

namespace Trace

def reports (log : Trace) : Nat := log.countP (·.isReport)

def evictions (log : Trace) : Nat := log.countP (·.isEviction)

def removed (log : Trace) : Nat := log.foldr (fun event n => event.removed + n) 0

variable (a b : Trace)

@[simp] theorem reports_append : reports (a ++ b) = reports a + reports b := List.countP_append ..

@[simp] theorem evictions_append : evictions (a ++ b) = evictions a + evictions b := List.countP_append ..

@[simp] theorem removed_append : removed (a ++ b) = removed a + removed b := by
  induction a with
  | nil => exact (Nat.zero_add _).symm
  | cons event a ih => exact (congrArg (event.removed + ·) ih).trans (Nat.add_assoc ..).symm

end Trace

/-- The trace event that a moment tells. -/
def Moment.event? : Moment → Option TraceEvent
  | incident (.traced event) => some event
  | _ => none

/-- Whether the drop counts are reset at this moment. -/
def Moment.resets : Moment → Bool
  | begun (.operate .resetDropped) _ => true
  | _ => false

namespace Narrative

def trace (n : Narrative) : Trace := n.filterMap Moment.event?

/-- What was told of the stored entries of type `t`. -/
def traceOf (t : EntryType) (n : Narrative) : Trace := n.trace.filter (·.regards t)

/-- What happened since the drop counts were last reset. -/
def recent (n : Narrative) : Narrative := n.rtakeWhile (!·.resets)

theorem trace_append (a b : Narrative) : trace (a ++ b) = a.trace ++ b.trace := List.filterMap_append

theorem traceOf_append (a b : Narrative) : traceOf t (a ++ b) = a.traceOf t ++ b.traceOf t := by
  rw [traceOf, trace_append]
  exact List.filter_append ..

theorem requested_append (a b : Narrative) : requested (a ++ b) = a.requested ++ b.requested :=
  List.filterMap_append

theorem recent_append {ms : Narrative} (hms : ∀ m ∈ ms, m.resets = false) (n : Narrative) :
    recent (n ++ ms) = n.recent ++ ms := by
  induction ms generalizing n with
  | nil => rw [List.append_nil, List.append_nil]
  | cons m ms ih =>
    obtain ⟨hm, hms⟩ := List.forall_mem_cons.mp hms
    have hfirst : recent (n ++ [m]) = n.recent ++ [m] :=
      List.rtakeWhile_concat_pos _ _ m (by rw [hm]; rfl)
    rw [List.append_cons, ih hms, hfirst, ← List.append_cons]

theorem recent_reset {m : Moment} (hm : m.resets = true) (n : Narrative) : recent (n ++ [m]) = [] :=
  List.rtakeWhile_concat_neg _ _ m (by simp [hm])

end Narrative

/-- By the trace, everything that was reported is stored, was evicted or was removed, unless there is no room
at all. Evictions, or refusals where there is no room, are counted since the last reset; each eviction tells
its own number. -/
structure Timeline.Accounted (capacities : Capacities) (tl : Timeline Narrative) : Prop where
  size (t : EntryType) (ht : capacities.get t ≠ some 0) :
    tl.recorder.size t + (tl.host.traceOf t).evictions + (tl.host.traceOf t).removed =
      (tl.host.traceOf t).reports
  dropped (t : EntryType) (ht : capacities.get t ≠ some 0) :
    tl.recorder.dropped t = (tl.host.recent.traceOf t).evictions
  numbered (t : EntryType) (past : Narrative) (name : String) (k : Nat) (rest : Narrative)
    (hsplit : tl.host = past ++ .incident (.traced (.evicted t name k)) :: rest) :
    k = (past.recent.traceOf t).evictions + 1
  refused (t : EntryType) (ht : capacities.get t = some 0) :
    (tl.host.traceOf t).evictions = 0 ∧
      tl.recorder.dropped t = (tl.host.recent.traceOf t).reports
  requested : tl.host.trace.count .dispatchRequested = tl.host.requested.length

/-! ### What is told of one change -/

namespace Buffer

variable {b fresh : Buffer} {slot : Option Buffer} {change : Buffer.Change}

/-- What was told accounts for the way from one buffer to the other, which is no reset. -/
structure Accounts (b b' : Buffer) (told : Trace) : Prop where
  size (h0 : b.capacity ≠ some 0) : b'.size + told.evictions + told.removed = b.size + told.reports
  dropped (h0 : b.capacity ≠ some 0) : b'.dropped = b.dropped + told.evictions
  refused (h0 : b.capacity = some 0) : told.evictions = 0 ∧ b'.dropped = b.dropped + told.reports

theorem accounts_append (h : b.Fits) (e : Entry) :
    Accounts b (b.append e).1 ((b.append e).2 ++ [.reported e]) := by
  rcases append_cases h e with ⟨hc, happend⟩ | ⟨hroom, happend⟩ | ⟨gone, rest, hfull, hentries, happend⟩
  · refine ⟨fun h0 => absurd hc h0, fun h0 => absurd hc h0, fun _ => ?_⟩
    rw [happend]
    exact ⟨rfl, rfl⟩
  · have h0 : b.capacity ≠ some 0 := fun hc => Nat.not_lt_zero _ (hroom 0 hc)
    refine ⟨fun _ => ?_, fun _ => ?_, fun hc => absurd hc h0⟩
    · rw [happend, size, List.length_append]
      rfl
    · rw [happend]
      rfl
  · have h0 : b.capacity ≠ some 0 := fun hc => by
      rw [hfull, size, hentries] at hc
      cases hc
    refine ⟨fun _ => ?_, fun _ => ?_, fun hc => absurd hc h0⟩
    · rw [happend, size, size, hentries, List.length_append, List.length_cons]
      rfl
    · rw [happend]
      rfl

theorem accounts_told (h : (slot.getD fresh).Fits) (hempty : fresh.entries = [])
    (hchange : change ≠ .resetDropped) :
    Accounts (slot.getD fresh) ((slot.getD fresh).perform change) (change.told t fresh slot) := by
  cases change with
  | append e => exact accounts_append h e
  | clear name =>
    cases slot with
    | none =>
      have hsize : (fresh.clear name).size = fresh.size := by simp [size, Buffer.clear, hempty]
      exact ⟨fun _ => hsize, fun _ => rfl, fun _ => ⟨rfl, rfl⟩⟩
    | some b =>
      refine ⟨fun _ => ?_, fun _ => rfl, fun _ => ⟨rfl, rfl⟩⟩
      have hcount := clearCount_add_size b name
      show (b.clear name).size + 0 + (b.clearCount name + 0) = b.size + 0
      omega
  | resetDropped => exact absurd rfl hchange

end Buffer

/-! ### What is told of an operation -/

namespace Operation

variable {capacities : Capacities} {r : Recorder} {op : Operation}

theorem changeOn_ne_resetDropped (h : op ≠ .resetDropped) {n : Nat} {change : Buffer.Change}
    (hchange : op.changeOn t n = some change) : change ≠ .resetDropped := by
  rintro rfl
  cases op with
  | report e => simp [changeOn] at hchange
  | reportEvent name start duration timing => simp [changeOn] at hchange
  | clear u name => simp [changeOn] at hchange
  | clearAll => simp [changeOn] at hchange
  | resetDropped => exact h rfl
  | _ => cases hchange

/-- Unless it is a reset, what is told of an operation accounts for the buffer of each type. -/
theorem accounts_events (h : r.Reachable capacities) (hop : op ≠ .resetDropped) (t : EntryType) :
    Buffer.Accounts (r.buffer t) ((op.onRecorder r).buffer t) ((op.events r).filter (·.regards t)) := by
  rw [Recorder.events_of_type h, Recorder.buffer_onRecorder]
  cases hchange : op.changeOn t (r.sequence + 1) with
  | none => exact ⟨fun _ => rfl, fun _ => rfl, fun _ => ⟨rfl, rfl⟩⟩
  | some change => exact Buffer.accounts_told (h.fits_buffer t) rfl (changeOn_ne_resetDropped hop hchange)

/-- What is told of the recorder is about stored entries of some type. -/
theorem regards_of_mem_events {event : TraceEvent} (h : event ∈ op.events r) :
    ∃ t, event.regards t = true := by
  rcases op.events_cases r with ⟨e, hevents⟩ | hcleared
  · rw [hevents, Recorder.append_events] at h
    rcases List.mem_append.mp h with h | h
    · obtain ⟨name, k, rfl⟩ := Buffer.append_snd_entryType _ _ event h
      exact ⟨_, decide_eq_true rfl⟩
    · rw [List.mem_singleton.mp h]
      exact ⟨_, decide_eq_true rfl⟩
  · obtain ⟨u, name, n, rfl⟩ := hcleared event h
    exact ⟨u, decide_eq_true rfl⟩

/-- An eviction is the first that is told of an operation, and tells its own number. -/
theorem evicted_of_events (h : r.Reachable capacities) {before after : Trace} {name : String} {k : Nat}
    (hevents : op.events r = before ++ .evicted t name k :: after) :
    before = [] ∧ capacities.get t ≠ some 0 ∧ k = r.dropped t + 1 := by
  have hmem : TraceEvent.evicted t name k ∈ before ++ .evicted t name k :: after :=
    List.mem_append_right _ List.mem_cons_self
  have not_reported {e : Entry} : TraceEvent.evicted t name k ∉ [TraceEvent.reported e] := by simp
  rcases op.events_cases r with ⟨e, happended⟩ | hcleared
  · rw [happended, Recorder.append_events] at hevents
    rcases Buffer.append_cases (h.fits_buffer e.entryType) (e.withSequence (r.sequence + 1)) with
      ⟨-, happend⟩ | ⟨-, happend⟩ | ⟨gone, rest, hfull, hentries, happend⟩
    · rw [← hevents, happend] at hmem
      exact absurd hmem not_reported
    · rw [← hevents, happend] at hmem
      exact absurd hmem not_reported
    · rw [happend, h.entryType_buffer] at hevents
      cases before with
      | nil =>
        obtain ⟨rfl, -, rfl⟩ := TraceEvent.evicted.inj (List.cons.inj hevents).1
        refine ⟨rfl, fun h0 => ?_, by rw [Recorder.dropped_eq]⟩
        rw [← h.capacity_buffer, hfull, Buffer.size, hentries] at h0
        cases h0
      | cons x before =>
        have hreported : [TraceEvent.reported (e.withSequence (r.sequence + 1))] =
          before ++ .evicted t name k :: after := (List.cons.inj hevents).2
        refine absurd ?_ (not_reported (e := e.withSequence (r.sequence + 1)))
        rw [hreported]
        exact List.mem_append_right _ List.mem_cons_self
  · obtain ⟨u, name', n, heq⟩ := hcleared _ (hevents ▸ hmem)
    cases heq

end Operation

/-! ### What is told at a moment -/

namespace Narrative

theorem trace_traced (events : Trace) : trace ((events.map .traced).map .incident) = events := by
  induction events with
  | nil => rfl
  | cons event events ih => exact congrArg (event :: ·) ih

theorem resets_incidents (incidents : List Incident) :
    ∀ m ∈ incidents.map Moment.incident, m.resets = false := by
  intro m hm
  obtain ⟨i, -, rfl⟩ := List.mem_map.mp hm
  rfl

/-- The trace of a response: nothing of it is about storage, and a dispatch is requested if the observer wakes
up. -/
theorem trace_response (tl : Timeline Narrative) (o : ObserverId) (reaction : Observer.Reaction) :
    trace ((tl.response o reaction).map .incident) =
      reaction.events ++ if reaction.wakes then [.dispatchRequested] else [] := by
  have hrequest : trace ((tl.request o).map .incident) = [] := by
    unfold Timeline.request
    cases tl.route? o with
    | none => rfl
    | some route => cases route <;> rfl
  unfold Timeline.response
  rw [List.map_append, trace_append, trace_traced]
  split
  · exact congrArg (reaction.events ++ .dispatchRequested :: ·) hrequest
  · rfl

end Narrative

namespace Timeline

variable {capacities : Capacities} {tl tl' : Timeline Narrative}

theorem accounted_new (capacities : Capacities) : Accounted capacities (new capacities []) where
  size t _ := by cases t <;> rfl
  dropped t _ := by cases t <;> rfl
  numbered t past name k rest hsplit :=
    absurd hsplit.symm (List.append_ne_nil_of_right_ne_nil past (List.cons_ne_nil _ _))
  refused t _ := by cases t <;> exact ⟨rfl, rfl⟩
  requested := rfl

/-- Something is told that is not about storage. -/
theorem Accounted.extend (h : Accounted capacities tl) {ms : Narrative}
    (hrecorder : tl'.recorder = tl.recorder) (hhost : tl'.host = tl.host ++ ms)
    (hresets : ∀ m ∈ ms, m.resets = false) (hregards : ∀ t, ms.traceOf t = [])
    (hrequested : ms.trace.count .dispatchRequested = ms.requested.length) : Accounted capacities tl' := by
  have htrace (t : EntryType) : tl'.host.traceOf t = tl.host.traceOf t := by
    rw [hhost, Narrative.traceOf_append, hregards, List.append_nil]
  have hrecent (t : EntryType) : tl'.host.recent.traceOf t = tl.host.recent.traceOf t := by
    rw [hhost, Narrative.recent_append hresets, Narrative.traceOf_append, hregards, List.append_nil]
  refine ⟨?_, ?_, ?_, ?_, ?_⟩
  · intro t ht
    rw [htrace, hrecorder]
    exact h.size t ht
  · intro t ht
    rw [hrecent, hrecorder]
    exact h.dropped t ht
  · intro t past name k rest hsplit
    rcases Narrative.split_append (hhost.symm.trans hsplit) with ⟨rest', hold, -⟩ | ⟨before, -, hms⟩
    · exact h.numbered t past name k rest' hold
    · have hmem : TraceEvent.evicted t name k ∈ ms.traceOf t := by
        rw [hms, Narrative.traceOf_append]
        refine List.mem_append_right _ (List.mem_filter.mpr ⟨List.mem_cons_self, ?_⟩)
        exact decide_eq_true rfl
      rw [hregards] at hmem
      exact absurd hmem List.not_mem_nil
  · intro t ht
    rw [htrace, hrecent, hrecorder]
    exact h.refused t ht
  · rw [hhost, Narrative.trace_append, Narrative.requested_append, List.count_append, List.length_append,
      h.requested, hrequested]

theorem Accounted.of_eq (h : Accounted capacities tl) (hrecorder : tl'.recorder = tl.recorder)
    (hhost : tl'.host = tl.host) : Accounted capacities tl' :=
  h.extend hrecorder (hhost.trans (List.append_nil _).symm) (fun _ hm => absurd hm List.not_mem_nil)
    (fun _ => rfl) rfl

theorem Accounted.react (h : Accounted capacities tl) {o : ObserverId} {s : Observer}
    {next : Observer × Observer.Reaction} (hs : tl.observer? o = some s) (hnext : s.Responds next) :
    Accounted capacities (tl.react .scribe o next) := by
  have hnone (t : EntryType) : ∀ event ∈ next.2.events, event.regards t ≠ true := by
    intro event hevent
    have hof := hnext.isOfObserver event hevent
    cases event <;> first | exact Bool.false_ne_true | cases hof
  have hcount : next.2.events.count .dispatchRequested = 0 :=
    List.count_eq_zero.mpr fun hmem => nomatch hnext.isOfObserver _ hmem
  rw [react_scribe]
  refine h.extend rfl rfl (Narrative.resets_incidents _) (fun t => ?_) ?_
  · rw [Narrative.traceOf, Narrative.trace_response, List.filter_append,
      List.filter_eq_nil_iff.mpr (hnone t)]
    split <;> rfl
  · rw [Narrative.trace_response, requested_response hs, List.count_append, hcount]
    split <;> rfl

/-- The recorder changes, but the drop counts are not reset. -/
theorem Accounted.record (h : Accounted capacities tl) (hr : tl.recorder.Reachable capacities)
    (op : Operation) (hop : op ≠ .resetDropped) :
    Accounted capacities (tl.record .scribe (op.onRecorder tl.recorder, op.events tl.recorder)) := by
  let told := (op.events tl.recorder).map Incident.traced |>.map Moment.incident
  have htold : Narrative.trace told = op.events tl.recorder := Narrative.trace_traced _
  have hrecent : Narrative.recent (tl.host ++ told) = tl.host.recent ++ told :=
    Narrative.recent_append (Narrative.resets_incidents _) tl.host
  have htoldOf (t : EntryType) : Narrative.traceOf t told = (op.events tl.recorder).filter (·.regards t) := by
    rw [Narrative.traceOf, htold]
  have haccounts := Operation.accounts_events hr hop
  have hcapacity := hr.capacity_buffer
  rw [record_scribe]
  refine ⟨?_, ?_, ?_, ?_, ?_⟩
  · intro t ht
    have hbefore := h.size t ht
    have hchange := (haccounts t).size (hcapacity t ▸ ht)
    rw [Recorder.size_eq] at hbefore ⊢
    rw [Narrative.traceOf_append, Trace.evictions_append, Trace.removed_append, Trace.reports_append, htoldOf]
    dsimp only
    omega
  · intro t ht
    have hbefore := h.dropped t ht
    have hchange := (haccounts t).dropped (hcapacity t ▸ ht)
    rw [Recorder.dropped_eq] at hbefore ⊢
    rw [hrecent, Narrative.traceOf_append, Trace.evictions_append, htoldOf, ← hbefore]
    exact hchange
  · intro t past name k rest hsplit
    rcases Narrative.split_append hsplit with ⟨rest', hold, -⟩ | ⟨before, hpast, hms⟩
    · exact h.numbered t past name k rest' hold
    · -- An eviction that is told now is told first, when as many were counted as are dropped.
      have hevents := congrArg Narrative.trace hms
      rw [Narrative.trace_append] at hevents
      obtain ⟨hnone, ht, rfl⟩ := Operation.evicted_of_events hr (htold.symm.trans hevents)
      have hresets : ∀ m ∈ before, m.resets = false := fun m hm =>
        Narrative.resets_incidents _ m (hms ▸ List.mem_append_left _ hm)
      have hsilent : before.traceOf t = [] := by rw [Narrative.traceOf, hnone]; rfl
      rw [hpast, Narrative.recent_append hresets, Narrative.traceOf_append, hsilent, List.append_nil,
        h.dropped t ht]
  · intro t ht
    obtain ⟨hevictions, hbefore⟩ := h.refused t ht
    obtain ⟨hnone, hchange⟩ := (haccounts t).refused ((hcapacity t).trans ht)
    rw [Recorder.dropped_eq] at hbefore ⊢
    rw [hrecent, Narrative.traceOf_append, Narrative.traceOf_append, Trace.evictions_append,
      Trace.reports_append, htoldOf, hevictions, hnone, ← hbefore]
    exact ⟨rfl, hchange⟩
  · have hnone : (op.events tl.recorder).count .dispatchRequested = 0 := by
      refine List.count_eq_zero.mpr fun hmem => ?_
      obtain ⟨t, ht⟩ := Operation.regards_of_mem_events hmem
      exact nomatch ht
    rw [Narrative.trace_append, htold, Narrative.requested_append, requested_traced, List.count_append, hnone,
      List.append_nil]
    exact h.requested

/-- The drop counts are reset. -/
theorem Accounted.reset (h : Accounted capacities tl) :
    Accounted capacities (tl.enter (.operate .resetDropped)) := by
  have hbegun (t : EntryType) :
      Narrative.traceOf t (tl.host ++ [.begun (.operate .resetDropped) tl.bare]) = tl.host.traceOf t := by
    rw [Narrative.traceOf_append]
    exact List.append_nil _
  have hrecent : Narrative.recent (tl.host ++ [.begun (.operate .resetDropped) tl.bare]) = [] :=
    Narrative.recent_reset rfl tl.host
  have hdropped (t : EntryType) : tl.recorder.resetDropped.dropped t = 0 := by
    rw [Recorder.dropped_eq, Recorder.buffer_resetDropped]
    rfl
  have hsize (t : EntryType) : tl.recorder.resetDropped.size t = tl.recorder.size t := by
    rw [Recorder.size_eq, Recorder.buffer_resetDropped, Recorder.size_eq]
    rfl
  refine ⟨fun t ht => ?_, fun t _ => ?_, fun t past name k rest hsplit => ?_, fun t ht => ⟨?_, ?_⟩, ?_⟩
  · show tl.recorder.resetDropped.size t + (Narrative.traceOf t (tl.host ++ [_])).evictions +
      (Narrative.traceOf t (tl.host ++ [_])).removed = (Narrative.traceOf t (tl.host ++ [_])).reports
    rw [hbegun, hsize]
    exact h.size t ht
  · show tl.recorder.resetDropped.dropped t = (Narrative.traceOf t (Narrative.recent (tl.host ++ [_]))).evictions
    rw [hrecent, hdropped]
    rfl
  · rcases Narrative.split_concat hsplit with ⟨rest', hold, -⟩ | ⟨-, heq, -⟩
    · exact h.numbered t past name k rest' hold
    · exact nomatch heq
  · show (Narrative.traceOf t (tl.host ++ [_])).evictions = 0
    rw [hbegun]
    exact (h.refused t ht).1
  · show tl.recorder.resetDropped.dropped t = (Narrative.traceOf t (Narrative.recent (tl.host ++ [_]))).reports
    rw [hrecent, hdropped]
    rfl
  · show (Narrative.trace (tl.host ++ [_])).count .dispatchRequested = (Narrative.requested (tl.host ++ [_])).length
    rw [Narrative.trace_append, Narrative.requested_append]
    exact (congrArg _ (List.append_nil _)).trans (h.requested.trans (congrArg _ (List.append_nil _).symm))

/-- A moment is told that is no trace event and no reset. -/
theorem Accounted.note (h : Accounted capacities tl) {m : Moment} (hresets : m.resets = false)
    (hevent : m.event? = none) (hrequested : m.requested? = none) : Accounted capacities (tl.note m) := by
  have htrace : Narrative.trace [m] = [] := List.filterMap_cons_none hevent
  refine h.extend rfl rfl (List.forall_mem_singleton.mpr hresets) (fun t => ?_) ?_
  · rw [Narrative.traceOf, htrace]
    rfl
  · rw [htrace, Narrative.requested, List.filterMap_cons_none hrequested]
    rfl

theorem Accounted.enter (h : Accounted capacities tl) (hr : tl.recorder.Reachable capacities) (d : Deed) :
    Accounted capacities (tl.enter d) := by
  cases d with
  | offer os e => exact (h.note rfl rfl rfl).record hr (.fanOut e) nofun
  | operate op =>
    by_cases hop : op = .resetDropped
    · subst hop
      exact h.reset
    · have hresets : (Moment.begun (.operate op) tl.bare).resets = false := by
        cases op <;> first | rfl | exact absurd rfl hop
      exact (h.note hresets rfl rfl).record hr op hop

theorem kept_accounted (capacities : Capacities) :
    Kept fun tl => tl.recorder.Reachable capacities ∧ Accounted capacities tl := by
  refine .of_recorder_and_host ?_ ?_ ?_ ?_
  · intro tl tl' h hrecorder hhost
    exact ⟨hrecorder ▸ h.1, h.2.of_eq hrecorder hhost⟩
  · intro tl d h
    refine ⟨?_, h.2.enter h.1 d⟩
    cases d with
    | offer os e => exact h.1
    | operate op => exact h.1.onRecorder op
  · intro tl o s next h hs hnext
    refine ⟨?_, h.2.react hs hnext⟩
    rw [react_scribe]
    exact h.1
  · intro tl d before a after h
    exact ⟨h.1, h.2.note rfl rfl rfl⟩

/-- Whatever is done in a run, by callbacks or otherwise, the trace accounts for the recorder and for the
dispatches, wherever a deed begins or ends, and in the end. -/
theorem accounted_narrate (plan : Plan) (depth : Nat) (ds : List Deed) (capacities : Capacities) :
    let tl := (new capacities []).narrate (.narrated plan depth) ds
    Accounted capacities tl ∧ tl.host.Throughout (Accounted capacities) := by
  obtain ⟨hend, hall⟩ :=
    (kept_accounted capacities).narrate plan depth ds capacities ⟨.new, accounted_new capacities⟩
  exact ⟨hend.2, fun past m rest view hsplit hview => (hall past m rest view hsplit hview).2⟩

end Timeline

end PerfTimeline
