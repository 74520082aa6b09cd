import PerfTimeline.Proofs.Delivery.Disconnection

/-!
# What an observer is like at any moment

Status, queue, filter, drop counter and watermark of an observer are kept apart and changed by many operations,
yet they never contradict one another (`Observer.Regular`), whatever anybody does and however deep callbacks
nest (`regular_throughout`). To say of a watermark that it covers what the current subscription copied, one has
to know which one is current; the narrative tells (`Narrative.backfill`).
-/

namespace PerfTimeline

variable {ε : Type} {o : ObserverId}

/-! ### One observer -/

/-- The parts of an observer's state go together. The recorder has numbered entries up to `counter`, and the
current subscription began with `backfill`. -/
structure Observer.Regular (s : Observer) (counter : Nat) (backfill : List Entry) : Prop where
  idle : s.status = .idle ↔ s.status ≠ .disconnected ∧ s.queue = []
  pending : s.status = .pending ↔ s.queue ≠ []
  bounded : s.queue.length ≤ s.limit
  disconnected (h : s.status = .disconnected) :
    s.filter = .nothing ∧ s.queue = [] ∧ s.dropped = 0 ∧ s.watermark = none
  marked (w : Nat) (h : s.watermark = some w) :
    (∃ t threshold, s.filter = .one t { buffered := true, threshold }) ∧ w ≤ counter
  covered : ∀ e ∈ backfill, ∃ w, s.watermark = some w ∧ e.sequence ≤ w

/-- The entries that a subscription begins with, out of those within reach. -/
def Operation.backfill (reachable : EntryType → Option (List Entry)) : Operation → List Entry
  | observeOne _ t options => Observer.copied options (reachable t)
  | _ => []

namespace Observer

variable {s s' : Observer} {counter counter' : Nat} {backfill : List Entry}

/-- What `s` becomes without being subscribed or disconnected. -/
structure Carries (s s' : Observer) : Prop where
  coherent : s'.Coherent
  filter : s'.filter = s.filter
  watermark : s'.watermark = s.watermark
  limit : s'.limit = s.limit
  dropped : s.dropped ≤ s'.dropped

theorem Regular.coherent (h : s.Regular counter backfill) : s.Coherent where
  idle hidle := (h.idle.mp hidle).2
  pending hpending := h.pending.mp hpending
  disconnected hgone := by
    obtain ⟨hfilter, hqueue, hdropped, hwatermark⟩ := h.disconnected hgone
    cases s
    simp_all
  bounded := h.bounded

theorem Coherent.regular (h : s.Coherent)
    (hmarked : ∀ w, s.watermark = some w →
      (∃ t threshold, s.filter = .one t { buffered := true, threshold }) ∧ w ≤ counter)
    (hcovered : ∀ e ∈ backfill, ∃ w, s.watermark = some w ∧ e.sequence ≤ w) :
    s.Regular counter backfill where
  idle := by
    refine ⟨fun hidle => ⟨by rw [hidle]; exact nofun, h.idle hidle⟩, fun ⟨hgone, hqueue⟩ => ?_⟩
    cases hstatus : s.status with
    | idle => rfl
    | pending => exact absurd hqueue (h.pending hstatus)
    | disconnected => exact absurd hstatus hgone
  pending := by
    refine ⟨h.pending, fun hqueue => ?_⟩
    cases hstatus : s.status with
    | idle => exact absurd (h.idle hstatus) hqueue
    | pending => rfl
    | disconnected =>
      rw [h.disconnected hstatus] at hqueue
      exact absurd rfl hqueue
  bounded := h.bounded
  disconnected hgone := by
    rw [h.disconnected hgone]
    exact ⟨rfl, rfl, rfl, rfl⟩
  marked := hmarked
  covered := hcovered

theorem Regular.carry (h : s.Regular counter backfill) (hc : s.Carries s') (hle : counter ≤ counter') :
    s'.Regular counter' backfill := by
  refine hc.coherent.regular (fun w hw => ?_) fun e he => ?_
  · rw [hc.filter]
    rw [hc.watermark] at hw
    exact (h.marked w hw).imp_right fun hw => Nat.le_trans hw hle
  · rw [hc.watermark]
    exact h.covered e he

theorem carries_refl (h : s.Coherent) : s.Carries s := ⟨h, rfl, rfl, rfl, Nat.le_refl _⟩

theorem carries_push (h : s.Coherent) (e : Entry) : s.Carries (s.push e).1 := by
  refine ⟨coherent_push h e, filter_push h e, watermark_push s e, ?_, ?_⟩
  · rw [push_eq_fill h]
    split <;> rfl
  · rw [push_eq_fill h]
    split
    · exact Nat.le_add_right ..
    · exact Nat.le_refl _

theorem carries_take (h : s.Coherent) (sorted : Bool) : s.Carries (s.take sorted).1 :=
  ⟨coherent_take h sorted, rfl, rfl, rfl, Nat.le_refl _⟩

/-- A watermark comes from the entries that it covers. -/
theorem regular_observeOne (h : s.Coherent) (hd : s.isDisconnected = false) (t : EntryType)
    (options : ObserveOptions) {stored : Option (List Entry)}
    (hstored : ∀ es, stored = some es → ∀ e ∈ es, e.sequence ≤ counter) :
    (s.observeOne t options stored).1.Regular counter (copied options stored) := by
  refine (coherent_observeOne h t options stored).regular ?_ ?_
  · intro w hw
    rw [observeOne_eq_fill h hd] at hw ⊢
    obtain ⟨e, he, rfl⟩ := List.mem_map.mp (List.max?_mem hw)
    cases hb : options.buffered with
    | false => simp [hb] at he
    | true =>
      rw [if_pos hb] at he
      refine ⟨⟨t, options.threshold, ?_⟩, ?_⟩
      · show Filter.one t options = _
        rw [← hb]
      · cases stored with
        | none => exact absurd he List.not_mem_nil
        | some es => exact hstored es rfl e he
  · intro e he
    rw [observeOne_eq_fill h hd]
    unfold copied at he
    split at he
    · rename_i hb
      have hmem : e.sequence ∈ (stored.getD []).map Entry.sequence :=
        List.mem_map_of_mem (List.mem_filter.mp he).1
      obtain ⟨w, hw⟩ := Option.isSome_iff_exists.mp (List.isSome_max?_of_mem hmem)
      refine ⟨w, ?_, (List.max?_eq_some_iff.mp hw).2 _ hmem⟩
      show (List.map Entry.sequence (if options.buffered then stored.getD [] else [])).max? = some w
      rw [if_pos hb, hw]
    · exact absurd he List.not_mem_nil

theorem regular_observeMany (h : s.Coherent) (hd : s.isDisconnected = false) (types : List EntryType) :
    (s.observeMany types).1.Regular counter [] := by
  refine (coherent_observeMany h types).regular (fun w hw => ?_) (fun _ he => absurd he List.not_mem_nil)
  simp [observeMany, hd] at hw

theorem regular_disconnect (h : s.Coherent) (hd : s.isDisconnected = false) :
    s.disconnect.1.Regular counter [] := by
  refine (coherent_disconnect h).regular (fun w hw => ?_) (fun _ he => absurd he List.not_mem_nil)
  simp [disconnect, hd] at hw

variable {op : Operation} {reachable : EntryType → Option (List Entry)}

theorem regular_obey (h : s.Coherent) (hd : s.isDisconnected = false) (hop : op.addressee? = some o)
    (hreachable : ∀ t es, reachable t = some es → ∀ e ∈ es, e.sequence ≤ counter) :
    (s.obey reachable op).1.Regular counter (op.backfill reachable) := by
  cases op with
  | observeOne p t options => exact regular_observeOne h hd t options (hreachable t)
  | observeMany p types => exact regular_observeMany h hd types
  | disconnect p => exact regular_disconnect h hd
  | _ => cases hop

theorem dropped_obey (h : s.Coherent) (hd : s.isDisconnected = false) (hop : op.addressee? = some o) :
    (s.obey reachable op).1.limit = s.limit ∧
      (s.dropped ≤ (s.obey reachable op).1.dropped ∨ op = .disconnect o) := by
  cases op with
  | observeOne p t options =>
    simp only [obey]
    rw [observeOne_eq_fill h hd]
    exact ⟨rfl, .inl (Nat.le_add_right ..)⟩
  | observeMany p types => simp [obey, observeMany, hd]
  | disconnect p =>
    obtain rfl := Option.some.inj hop
    simp [obey, disconnect, hd]
  | _ => cases hop

end Observer

/-! ### What is told of an observer -/

/-- What the current subscription of `o` began with, after a moment. -/
def Moment.backfill (o : ObserverId) (current : List Entry) : Moment → List Entry
  | begun (.operate op) before =>
    if before.heeds o (.operate op) then op.backfill before.reachable else current
  | _ => current

/-- What the current subscription of `o` began with. -/
def Narrative.backfill (o : ObserverId) (n : Narrative) : List Entry := n.foldl (Moment.backfill o) []

/-- Whether `o` was disconnected. -/
def Narrative.Disconnects (o : ObserverId) (n : Narrative) : Prop :=
  ∃ before : Timeline Unit, before.heeds o (.operate (.disconnect o)) = true ∧
    .begun (.operate (.disconnect o)) before ∈ n

namespace Narrative

theorem backfill_append (o : ObserverId) (n ms : Narrative) :
    backfill o (n ++ ms) = ms.foldl (Moment.backfill o) (n.backfill o) := List.foldl_append

theorem foldl_backfill_incidents (o : ObserverId) (current : List Entry) (incidents : List Incident) :
    (incidents.map Moment.incident).foldl (Moment.backfill o) current = current := by
  induction incidents with
  | nil => rfl
  | cons i incidents ih => exact ih

theorem backfill_of_not_heeds {before : Timeline Unit} {d : Deed} (hd : before.heeds o d = false)
    (current : List Entry) : Moment.backfill o current (.begun d before) = current := by
  cases d with
  | offer os e => rfl
  | operate op =>
    simp only [Moment.backfill, hd]
    rfl

theorem backfill_of_heeds {before : Timeline Unit} {op : Operation}
    (hheeds : before.heeds o (.operate op) = true) (current : List Entry) :
    Moment.backfill o current (.begun (.operate op) before) = op.backfill before.reachable := by
  simp only [Moment.backfill, hheeds]
  rfl

theorem Disconnects.append_left {n : Narrative} (h : n.Disconnects o) (ms : Narrative) :
    Disconnects o (n ++ ms) := by
  obtain ⟨before, hheeds, hmem⟩ := h
  exact ⟨before, hheeds, List.mem_append_left _ hmem⟩

theorem Disconnects.append_right {n : Narrative} (h : n.Disconnects o) (ms : Narrative) :
    Disconnects o (ms ++ n) := by
  obtain ⟨before, hheeds, hmem⟩ := h
  exact ⟨before, hheeds, List.mem_append_right _ hmem⟩

/-- Only the first of these moments shows a timeline, if any does, and what it shows is `view`. -/
def Opens (view : Timeline Unit) (ms : Narrative) : Prop :=
  ∀ past m rest view', ms = past ++ m :: rest → m.view? = some view' → past = [] ∧ view' = view

theorem view?_of_mem_incidents {incidents : List Incident} {m : Moment}
    (h : m ∈ incidents.map Moment.incident) : m.view? = none := by
  obtain ⟨i, -, rfl⟩ := List.mem_map.mp h
  rfl

theorem opens_incidents (view : Timeline Unit) (incidents : List Incident) :
    Opens view (incidents.map .incident) := by
  intro past m rest view' hsplit hview
  have hm : m ∈ incidents.map Moment.incident := hsplit ▸ List.mem_append_cons_self
  exact nomatch hview.symm.trans (view?_of_mem_incidents hm)

theorem opens_cons {view : Timeline Unit} {m : Moment} (hm : m.view? = some view)
    (incidents : List Incident) : Opens view (m :: incidents.map .incident) := by
  intro past m' rest view' hsplit hview
  cases past with
  | nil =>
    obtain ⟨rfl, -⟩ := List.cons.inj hsplit
    exact ⟨rfl, Option.some.inj (hview.symm.trans hm)⟩
  | cons x past =>
    obtain ⟨-, htail⟩ := List.cons.inj hsplit
    have hm' : m' ∈ incidents.map Moment.incident := htail ▸ List.mem_append_cons_self
    exact nomatch hview.symm.trans (view?_of_mem_incidents hm')

end Narrative

namespace Timeline

/-- Observer `o` was in state `s` before all that is `told`. It has the limit that it had, and what it had
dropped is still counted unless it was disconnected. -/
def Retains (o : ObserverId) (s : Observer) (told : Narrative) (tl : Timeline ε) : Prop :=
  ∃ s', tl.observer? o = some s' ∧ s'.limit = s.limit ∧ (s.dropped ≤ s'.dropped ∨ told.Disconnects o)

/-- Observer `o` is regular and retains what it has counted at any moment. -/
structure Upkeep (o : ObserverId) (tl : Timeline Narrative) : Prop where
  regular (s : Observer) (hs : tl.observer? o = some s) :
    s.Regular tl.recorder.sequence (tl.host.backfill o)
  retains (past : Narrative) (m : Moment) (rest : Narrative) (view : Timeline Unit) (s : Observer)
    (hsplit : tl.host = past ++ m :: rest) (hview : m.view? = some view) (hs : view.observer? o = some s) :
    tl.Retains o s (m :: rest)

/-- Before an observer is made nothing is told of it. -/
structure Attended (capacities : Capacities) (o : ObserverId) (tl : Timeline Narrative) : Prop
    extends Upkeep o tl where
  reachable : tl.recorder.Reachable capacities
  unmade (hs : tl.observer? o = none) : tl.host.backfill o = []

variable {capacities : Capacities} {tl tl' : Timeline Narrative} {ms : Narrative} {incidents : List Incident}

theorem Retains.trans {s : Observer} {told : Narrative} (h : tl.Retains o s told)
    (hnext : ∀ s, tl.observer? o = some s → tl'.Retains o s ms) : tl'.Retains o s (told ++ ms) := by
  obtain ⟨s₁, hs₁, hlimit₁, hdropped₁⟩ := h
  obtain ⟨s₂, hs₂, hlimit₂, hdropped₂⟩ := hnext s₁ hs₁
  refine ⟨s₂, hs₂, hlimit₂.trans hlimit₁, ?_⟩
  rcases hdropped₁ with hle₁ | hgone
  · rcases hdropped₂ with hle₂ | hgone
    · exact .inl (Nat.le_trans hle₁ hle₂)
    · exact .inr (hgone.append_right told)
  · exact .inr (hgone.append_left ms)

/-- What is retained from the moment before a step is retained from any. -/
theorem Upkeep.retains_append (h : Upkeep o tl) (hhost : tl'.host = tl.host ++ ms)
    (hopens : Narrative.Opens tl.bare ms) (hnext : ∀ s, tl.observer? o = some s → tl'.Retains o s ms)
    (past : Narrative) (m : Moment) (rest : Narrative) (view : Timeline Unit) (s : Observer)
    (hsplit : tl'.host = past ++ m :: rest) (hview : m.view? = some view) (hs : view.observer? o = some s) :
    tl'.Retains o s (m :: rest) := by
  rw [hhost] at hsplit
  rcases Narrative.split_append hsplit with ⟨rest', hbefore, rfl⟩ | ⟨past', -, hms⟩
  · exact (h.retains past m rest' view s hbefore hview hs).trans hnext
  · obtain ⟨rfl, rfl⟩ := hopens past' m rest view hms hview
    rw [List.nil_append] at hms
    rw [← hms]
    exact hnext s hs

/-- A step in which `o` is neither subscribed nor disconnected. -/
theorem Attended.carry (h : Attended capacities o tl) (hhost : tl'.host = tl.host ++ ms)
    (hopens : Narrative.Opens tl.bare ms) (hbackfill : tl'.host.backfill o = tl.host.backfill o)
    (hreachable : tl'.recorder.Reachable capacities) (hle : tl.recorder.sequence ≤ tl'.recorder.sequence)
    (hnext : ∀ s, tl.observer? o = some s → ∃ s', tl'.observer? o = some s' ∧ s.Carries s')
    (hnone : tl.observer? o = none → tl'.observer? o = none) : Attended capacities o tl' where
  regular s' hs' := by
    cases hs : tl.observer? o with
    | none => exact nomatch hs'.symm.trans (hnone hs)
    | some s =>
      obtain ⟨s₁, hs₁, hc⟩ := hnext s hs
      obtain rfl := Option.some.inj (hs₁.symm.trans hs')
      rw [hbackfill]
      exact (h.regular s hs).carry hc hle
  retains := by
    refine h.retains_append hhost hopens fun s hs => ?_
    obtain ⟨s', hs', hc⟩ := hnext s hs
    exact ⟨s', hs', hc.limit, .inl hc.dropped⟩
  reachable := hreachable
  unmade hs' := by
    rw [hbackfill]
    cases hs : tl.observer? o with
    | none => exact h.unmade hs
    | some s =>
      obtain ⟨s₁, hs₁, -⟩ := hnext s hs
      exact nomatch hs₁.symm.trans hs'

/-- A small change that tells incidents only. -/
theorem Attended.extend (h : Attended capacities o tl)
    (hhost : tl'.host = tl.host ++ incidents.map .incident) (hrecorder : tl'.recorder = tl.recorder)
    (hnext : ∀ s, tl.observer? o = some s → ∃ s', tl'.observer? o = some s' ∧ s.Carries s')
    (hnone : tl.observer? o = none → tl'.observer? o = none) : Attended capacities o tl' := by
  have hbackfill : tl'.host.backfill o = tl.host.backfill o := by
    rw [hhost, Narrative.backfill_append, Narrative.foldl_backfill_incidents]
  exact h.carry hhost (Narrative.opens_incidents _ incidents) hbackfill (hrecorder ▸ h.reachable)
    (Nat.le_of_eq (congrArg _ hrecorder.symm)) hnext hnone

/-- A small change that leaves the observers alone and is not told. -/
theorem Attended.with_frame (h : Attended capacities o tl) (hhost : tl'.host = tl.host)
    (hrecorder : tl'.recorder = tl.recorder) (hobserver : tl'.observer? o = tl.observer? o) :
    Attended capacities o tl' := by
  have hhost' : tl'.host = tl.host ++ List.map Moment.incident [] := hhost.trans (List.append_nil _).symm
  refine h.extend hhost' hrecorder (fun s hs => ⟨s, hobserver.trans hs, ?_⟩) fun hs => hobserver.trans hs
  exact Observer.carries_refl (h.regular s hs).coherent

/-- An observer carries on and the others are left alone. -/
theorem Attended.with_observer (h : Attended capacities o tl) {p : ObserverId} {s next : Observer}
    (hs : tl.observer? p = some s) (hc : s.Coherent → s.Carries next)
    (hhost : tl'.host = tl.host ++ incidents.map .incident) (hrecorder : tl'.recorder = tl.recorder)
    (hobserver : tl'.observer? o = (tl.setObserver p next).observer? o) : Attended capacities o tl' := by
  by_cases hp : o = p
  · subst hp
    rw [observer?_setObserver_self tl (lt_length_of_observer? hs)] at hobserver
    refine h.extend hhost hrecorder (fun s' hs' => ⟨next, hobserver, ?_⟩) fun hnone => ?_
    · obtain rfl := Option.some.inj (hs.symm.trans hs')
      exact hc (h.regular s hs).coherent
    · exact nomatch hs.symm.trans hnone
  · rw [observer?_setObserver_of_ne tl hp] at hobserver
    refine h.extend hhost hrecorder (fun s' hs' => ⟨s', hobserver.trans hs', ?_⟩) fun hnone => ?_
    · exact Observer.carries_refl (h.regular s' hs').coherent
    · exact hobserver.trans hnone

/-! ### All steps -/

theorem attended_new (capacities : Capacities) (o : ObserverId) :
    Attended capacities o (new capacities []) where
  regular s hs := by simp [new, observer?] at hs
  retains _ _ _ _ _ hsplit := absurd hsplit.symm (List.append_ne_nil_of_right_ne_nil _ nofun)
  reachable := .new
  unmade _ := rfl

/-- A deed that `o` does not heed begins. -/
theorem Attended.begun (h : Attended capacities o tl) {d : Deed} (hd : tl.heeds o d = false)
    (hhost : tl'.host = tl.host ++ .begun d tl.bare :: incidents.map .incident)
    (hrecorder : tl'.recorder = d.onRecorder tl.recorder) (hobserver : tl'.observer? o = tl.observer? o) :
    Attended capacities o tl' := by
  have hopens : Narrative.Opens tl.bare (.begun d tl.bare :: incidents.map .incident) :=
    Narrative.opens_cons rfl incidents
  have hbackfill : tl'.host.backfill o = tl.host.backfill o := by
    rw [hhost, Narrative.backfill_append, List.foldl_cons, Narrative.foldl_backfill_incidents]
    exact Narrative.backfill_of_not_heeds hd _
  refine h.carry hhost hopens hbackfill ?_ ?_ (fun s hs => ⟨s, hobserver.trans hs, ?_⟩) fun hs =>
    hobserver.trans hs
  · rw [hrecorder]
    cases d with
    | offer os e => exact h.reachable
    | operate op => exact h.reachable.onRecorder op
  · rw [hrecorder]
    cases d with
    | offer os e => exact Nat.le_refl _
    | operate op =>
      show _ ≤ (op.onRecorder tl.recorder).sequence
      rw [Recorder.sequence_onRecorder_eq]
      exact Nat.le_add_right ..
  · exact Observer.carries_refl (h.regular s hs).coherent

/-- `o` heeds an operation. -/
theorem Attended.heed (h : Attended capacities o tl) {op : Operation} {s : Observer}
    (hs : tl.observer? o = some s) (hheeds : tl.heeds o (.operate op) = true)
    (hhost : tl'.host = tl.host ++ .begun (.operate op) tl.bare :: incidents.map .incident)
    (hrecorder : tl'.recorder = tl.recorder)
    (hobserver : tl'.observer? o = some (s.obey tl.reachable op).1) : Attended capacities o tl' where
  regular s' hs' := by
    obtain rfl := Option.some.inj (hobserver.symm.trans hs')
    rw [hrecorder, hhost, Narrative.backfill_append, List.foldl_cons, Narrative.foldl_backfill_incidents,
      Narrative.backfill_of_heeds hheeds]
    exact Observer.regular_obey (h.regular s hs).coherent (isDisconnected_of_heeds hs hheeds)
      (addressee_of_heeds hheeds) (le_counter_of_reachable h.reachable.ordered)
  retains := by
    have hopens : Narrative.Opens tl.bare (.begun (.operate op) tl.bare :: incidents.map .incident) :=
      Narrative.opens_cons rfl incidents
    refine h.retains_append hhost hopens fun s' hs' => ⟨_, hobserver, ?_⟩
    obtain rfl := Option.some.inj (hs.symm.trans hs')
    obtain ⟨hlimit, hdropped⟩ := Observer.dropped_obey (h.regular s hs).coherent
      (isDisconnected_of_heeds hs hheeds) (addressee_of_heeds hheeds)
    refine ⟨hlimit, hdropped.imp_right fun hop => ?_⟩
    subst hop
    exact ⟨tl.bare, hheeds, List.mem_cons_self⟩
  reachable := hrecorder ▸ h.reachable
  unmade hnone := nomatch hobserver.symm.trans hnone

theorem Attended.create (h : Attended capacities o tl) (limit : Nat) (route : Route) :
    Attended capacities o (tl.create limit route).1 := by
  have hobserver := observer?_append_slot tl limit route o
  by_cases hnew : o = tl.slots.length
  · rw [if_pos hnew] at hobserver
    have hnone : tl.observer? o = none := observer?_eq_none (Nat.le_of_eq hnew.symm)
    have hbackfill : (tl.create limit route).1.host.backfill o = [] := h.unmade hnone
    refine ⟨⟨fun s hs => ?_, fun past m rest view s hsplit hview hs => ?_⟩, h.reachable, fun _ => hbackfill⟩
    · obtain rfl := Option.some.inj (hobserver.symm.trans hs)
      rw [hbackfill]
      exact (Observer.coherent_new limit).regular nofun nofun
    · -- Who was seen before cannot be new.
      obtain ⟨s', hs', -⟩ := h.retains past m rest view s hsplit hview hs
      exact nomatch hs'.symm.trans hnone
  · rw [if_neg hnew] at hobserver
    exact h.with_frame rfl rfl hobserver

theorem upheld_attended (capacities : Capacities) (o : ObserverId) : Upheld (Attended capacities o) where
  enter {tl} d h hd := by
    unfold enter
    rw [record_scribe]
    exact h.begun (hd o) (List.append_assoc ..) rfl rfl
  heed {tl p s op} h hs hheeds := by
    have hop := addressee_of_heeds hheeds
    obtain ⟨owners, registry, incidents, heq⟩ := (tl.enter (.operate op)).heed_scribe p s op
    rw [heq, enter_of_addressee hop]
    by_cases hp : o = p
    · subst hp
      have hset := observer?_setObserver_self tl (lt_length_of_observer? hs) (s.obey tl.reachable op).1
      exact h.heed hs hheeds (List.append_assoc ..) rfl hset
    · -- Only one is addressed, so `o` has no part in this.
      have hset := observer?_setObserver_of_ne tl hp (s.obey tl.reachable op).1
      have hpassed : tl.heeds o (.operate op) = false :=
        not_heeds fun ho => hp (Option.some.inj (ho.symm.trans hop))
      have hrecorder : tl.recorder = op.onRecorder tl.recorder := (op.onRecorder_of_addressee hop _).symm
      exact h.begun hpassed (List.append_assoc ..) hrecorder hset
  push {tl p s} e h hs := by
    rw [react_scribe]
    exact h.with_observer hs (fun hco => Observer.carries_push hco e) rfl rfl rfl
  take {tl p s} sorted h hs :=
    have hhost : tl.host = tl.host ++ List.map Moment.incident [] := (List.append_nil _).symm
    h.with_observer hs (fun hco => Observer.carries_take hco sorted) hhost rfl rfl
  register h _ := h.with_frame rfl rfl rfl
  unregister _ h := h.with_frame rfl rfl rfl
  prune h := h.with_frame rfl rfl rfl
  release h := h.with_frame rfl rfl rfl
  owners {tl} p f h := h.with_frame rfl rfl (observer?_modify_owners tl p o f)
  create limit route h := h.create limit route
  tell {hooks tl} d _ hdone := by
    refine hdone.carry rfl (Narrative.opens_cons rfl []) ?_ hdone.reachable (Nat.le_refl _)
      (fun s hs => ⟨s, hs, ?_⟩) id
    · exact Narrative.backfill_append ..
    · exact Observer.carries_refl (hdone.regular s hs).coherent

/-- At every moment of a run and in the end, each observer is regular. -/
theorem always_regular (plan : Plan) (depth : Nat) (ds : List Deed) (capacities : Capacities)
    (o : ObserverId) :
    let tl := (new capacities []).narrate (.narrated plan depth) ds
    tl.Upkeep o ∧ tl.host.Throughout (Upkeep o) := by
  obtain ⟨hend, hthroughout⟩ :=
    (upheld_attended capacities o).narrate plan depth ds capacities (attended_new capacities o)
  refine ⟨hend.toUpkeep, fun past m rest view hsplit hview => ?_⟩
  exact (hthroughout past m rest view hsplit hview).toUpkeep

/-- Two marks are looked at and one is dropped for want of room, but the watermark covers both. -/
example :
    let ds : List Deed := [.operate (.report (.mark "a" .zero)), .operate (.report (.mark "b" .zero)),
      .operate (.create 1 .direct), .operate (.observeOne 0 .mark ⟨true, none⟩), .operate .close]
    let tl := (new .standard []).narrate (.narrated (fun _ _ => []) 1) ds
    (tl.host.backfill 0).map (·.sequence) = [1, 2] ∧
      (tl.observer? 0).map (fun s => (s.status, s.queue.map (·.sequence), s.dropped, s.watermark)) =
        some (.pending, [1], 1, some 2) := by
  decide

end Timeline

end PerfTimeline
