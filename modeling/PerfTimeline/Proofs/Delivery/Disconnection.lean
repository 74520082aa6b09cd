import PerfTimeline.Proofs.Observer.Enrollment
import PerfTimeline.Proofs.Timeline.Narrative

/-!
# Disconnection is final

Once an observer is disconnected it stays so, with nothing in it, whatever anybody does afterwards and however
deep callbacks nest. It accepts nothing, gives nothing out and is not dispatched again, and only a direct
registration puts it back into the registry (`disconnected_for_good`). The proof follows one observer through
the small changes of a run: a disconnected observer remains as it is (`Remains`), and that can be said from any
moment on at which it is found disconnected.
-/

namespace PerfTimeline

variable {ε : Type} {o : ObserverId}

/-- A disconnected observer with nothing in it. -/
structure Observer.Spent (s : Observer) : Prop where
  status : s.status = .disconnected
  filter : s.filter = .nothing
  queue : s.queue = []
  dropped : s.dropped = 0
  admits (e : Entry) : s.admits e = false
  isObserving (t : EntryType) : s.isObserving t = false

namespace Observer

variable {s : Observer}

theorem Coherent.spent (h : s.Coherent) (hd : s.isDisconnected = true) : s.Spent := by
  have hstatus : s.status = .disconnected := by simpa [isDisconnected] using hd
  have heq := h.disconnected hstatus
  refine ⟨hstatus, ?_, ?_, ?_, ?_, ?_⟩
  · rw [heq]
  · rw [heq]
  · rw [heq]
  · exact fun e => by simp [admits, hd]
  · exact fun t => by simp [isObserving, hd]

/-- A disconnected observer does not respond to anything. -/
theorem Responds.eq_of_isDisconnected {next : Observer × Reaction} (h : s.Responds next)
    (hd : s.isDisconnected = true) : next = (s, {}) := by
  cases h with
  | push e => exact push_of_isDisconnected hd e
  | observeOne t options stored => exact observeOne_of_isDisconnected hd t options stored
  | observeMany types => exact observeMany_of_isDisconnected hd types
  | disconnect => simp [Observer.disconnect, hd]

theorem Responds.coherent {next : Observer × Reaction} (h : s.Responds next) (hs : s.Coherent) :
    next.1.Coherent := by
  cases h with
  | push e => exact coherent_push hs e
  | observeOne t options stored => exact coherent_observeOne hs t options stored
  | observeMany types => exact coherent_observeMany hs types
  | disconnect => exact coherent_disconnect hs

end Observer

namespace Timeline

/-- Whether an observer was disconnected. -/
def isDisconnected (tl : Timeline ε) (o : ObserverId) : Bool :=
  (tl.observer? o).any (·.isDisconnected)

theorem isDisconnected_iff {tl : Timeline ε} :
    tl.isDisconnected o = true ↔ ∃ s, tl.observer? o = some s ∧ s.isDisconnected = true :=
  Option.any_eq_true _ _

/-- Disconnected for good, and nothing else happens. -/
theorem disconnect_of_isDisconnected {hooks : Hooks ε} {tl : Timeline ε}
    (h : tl.isDisconnected o = true) : (tl.perform hooks (.disconnect o)).1 = tl := by
  obtain ⟨s, hs, hd⟩ := isDisconnected_iff.mp h
  have hsame : tl.disconnect hooks o = tl := by simp [disconnect, hs, hd]
  simp only [perform, onLive, hsame]
  split <;> rfl

end Timeline

/-! ### Answers -/

/-- What a deed on `o` comes to: a disconnection disconnects, and a disconnected observer neither queues an
entry nor gives one out. -/
structure Deed.Respects (o : ObserverId) (d : Deed) (before : Timeline Unit) (a : Answer)
    (after : Timeline Unit) : Prop where
  disconnected (hd : d = .operate (.disconnect o)) (hl : before.isLive o = true) :
    after.isDisconnected o = true
  unregistered (hd : d = .operate (.disconnect o)) (hl : before.isLive o = true)
    (hc : before.isConnected o = true) (hopen : after.isOpen = true) : o ∉ after.registry
  pushed (e : Entry) (hd : d = .operate (.push o e)) (hgone : before.isDisconnected o = true) :
    a ≠ .queued true
  taken (sorted : Bool) (hd : d = .operate (.take o sorted)) (hgone : before.isDisconnected o = true) :
    a.taken = []

namespace Timeline

theorem react_of_not_wakes {next : Observer × Observer.Reaction} (h : next.2.wakes = false)
    (hooks : Hooks ε) (o : ObserverId) (tl : Timeline ε) :
    tl.react hooks o next = (tl.setObserver o next.1).emit hooks next.2.events := by
  simp [react, h]

theorem disconnect_wakes (s : Observer) : s.disconnect.2.wakes = false := by
  unfold Observer.disconnect
  split <;> rfl

theorem isConnected_eq_not {tl : Timeline ε} {s : Observer} (hs : tl.observer? o = some s) :
    tl.isConnected o = !s.isDisconnected := by
  simp [isConnected, hs]

theorem exists_of_isLive {tl : Timeline ε} (h : tl.isLive o = true) : ∃ s, tl.observer? o = some s := by
  have hlt := lt_length_of_isLive h
  exact ⟨_, by rw [observer?, List.getElem?_eq_getElem hlt]; rfl⟩

/-- A disconnection leaves a disconnected observer behind, out of the registry if it can be reached. -/
theorem disconnect_spec (hooks : Hooks ε) {tl : Timeline ε} (hl : tl.isLive o = true) :
    (tl.disconnect hooks o).isDisconnected o = true ∧
      (tl.isConnected o = true → (tl.disconnect hooks o).isOpen = true →
        o ∉ (tl.disconnect hooks o).registry) := by
  have hlt := lt_length_of_isLive hl
  obtain ⟨s, hs⟩ := exists_of_isLive hl
  cases hd : s.isDisconnected with
  | true =>
    have hsame : tl.disconnect hooks o = tl := by simp [disconnect, hs, hd]
    rw [hsame, isConnected_eq_not hs, hd]
    exact ⟨isDisconnected_iff.mpr ⟨s, hs, hd⟩, fun hc => absurd hc Bool.false_ne_true⟩
  | false =>
    have hdisconnect : tl.disconnect hooks o =
        ((if tl.isOpen then tl.unregister o else tl).setObserver o s.disconnect.1).emit hooks
          s.disconnect.2.events := by
      rw [← react_of_not_wakes (disconnect_wakes s)]
      simp [disconnect, hs, hd]
    rw [hdisconnect]
    constructor
    · have hlt' : o < (if tl.isOpen then tl.unregister o else tl).slots.length := by
        split <;> exact hlt
      refine isDisconnected_iff.mpr ⟨s.disconnect.1, ?_, Observer.isDisconnected_disconnect s⟩
      exact observer?_setObserver_self _ hlt' _
    · intro _ hopen
      cases ho : tl.isOpen with
      | true => exact Registry.not_mem_unregister_self tl.isLive o tl.registry
      | false =>
        rw [ho] at hopen
        exact absurd (ho.symm.trans hopen) Bool.false_ne_true

theorem respects_act (hooks : Hooks ε) {tl : Timeline ε}
    (hcoherent : ∀ s, tl.observer? o = some s → s.Coherent) (d : Deed) :
    d.Respects o tl.bare (tl.act hooks d).2 (tl.act hooks d).1.bare where
  disconnected hd hl := by
    subst hd
    have hlive : tl.isLive o = true := hl
    simp only [act, perform, onLive, hlive, ite_true]
    exact (disconnect_spec hooks hlive).1
  unregistered hd hl hc := by
    subst hd
    have hlive : tl.isLive o = true := hl
    simp only [act, perform, onLive, hlive, ite_true]
    exact (disconnect_spec hooks hlive).2 hc
  pushed e hd hgone := by
    subst hd
    obtain ⟨s, hs, hds⟩ := isDisconnected_iff.mp hgone
    have hs' : tl.observer? o = some s := hs
    have hfalse : (tl.push hooks o e).2 = false := by
      simp [push, hs', Observer.push_of_isDisconnected hds]
    simp only [act, perform, onLive]
    split
    · simp [hfalse]
    · simp
  taken sorted hd hgone := by
    subst hd
    obtain ⟨s, hs, hds⟩ := isDisconnected_iff.mp hgone
    have hs' : tl.observer? o = some s := hs
    have hempty : (tl.take o sorted).2 = [] := by
      have hrecords := s.take_perm sorted
      rw [((hcoherent s hs').spent hds).queue] at hrecords
      simp only [take, hs']
      exact hrecords.eq_nil
    simp only [act, perform, onLive]
    split
    · exact hempty
    · rfl

/-! ### What remains -/

def Spent (o : ObserverId) (tl : Timeline ε) : Prop := ∃ s, tl.observer? o = some s ∧ s.Spent

/-- Observer `o` was disconnected in `past`, and `told` is what was told between `past` and `tl`. It is spent
and was not dispatched, and if it is in the registry it was there before or was registered directly. -/
structure Remains (o : ObserverId) (past : Timeline Unit) (told : Narrative) (tl : Timeline Narrative) :
    Prop where
  spent : tl.Spent o
  quiet : o ∉ told.requested
  isOpen (h : tl.isOpen = true) : past.isOpen = true
  registry (h : o ∈ tl.registry) :
    o ∈ past.registry ∨ ∃ before, .begun (.operate (.register o)) before ∈ told

/-- The observers are coherent, `o` was answered as it should be, and wherever it was found disconnected it
remains so. -/
structure Settled (o : ObserverId) (tl : Timeline Narrative) : Prop where
  coherent : ∀ p s, tl.observer? p = some s → s.Coherent
  answers : ∀ d before a after, .ended d before a after ∈ tl.host → d.Respects o before a after
  remains : ∀ past m rest view, tl.host = past ++ m :: rest → m.view? = some view →
    view.isDisconnected o = true → Remains o view (m :: rest) tl

section Small

variable {tl tl' : Timeline Narrative}

theorem Spent.isDisconnected {tl : Timeline ε} (h : tl.Spent o) : tl.isDisconnected o = true := by
  obtain ⟨s, hs, hspent⟩ := h
  exact isDisconnected_iff.mpr ⟨s, hs, by simp [Observer.isDisconnected, hspent.status]⟩

theorem spent_of_isDisconnected {tl : Timeline ε} (h : ∀ p s, tl.observer? p = some s → s.Coherent)
    (hgone : tl.isDisconnected o = true) : tl.Spent o := by
  obtain ⟨s, hs, hd⟩ := isDisconnected_iff.mp hgone
  exact ⟨s, hs, (h o s hs).spent hd⟩

theorem Remains.trans {past : Timeline Unit} {told told' : Narrative} (h : Remains o past told tl)
    (h' : Remains o tl.bare told' tl') : Remains o past (told ++ told') tl' where
  spent := h'.spent
  quiet := by
    rw [Narrative.requested, List.filterMap_append]
    exact fun hmem => (List.mem_append.mp hmem).elim h.quiet h'.quiet
  isOpen hopen := h.isOpen (h'.isOpen hopen)
  registry hmem := by
    rcases h'.registry hmem with hmem | ⟨before, hbegun⟩
    · rcases h.registry hmem with hmem | ⟨before, hbegun⟩
      · exact .inl hmem
      · exact .inr ⟨before, List.mem_append_left _ hbegun⟩
    · exact .inr ⟨before, List.mem_append_right _ hbegun⟩

/-- A small change that tells incidents only, and registers no disconnected observer. -/
theorem Settled.extend (h : Settled o tl) {incidents : List Incident}
    (hhost : tl'.host = tl.host ++ incidents.map .incident)
    (hcoherent : ∀ p s, tl'.observer? p = some s → s.Coherent)
    (hgone : tl.isDisconnected o = true → tl'.isDisconnected o = true)
    (hquiet : tl.isDisconnected o = true → o ∉ Narrative.requested (incidents.map .incident))
    (hopen : tl'.isOpen = true → tl.isOpen = true)
    (hregistry : tl.isDisconnected o = true → o ∈ tl'.registry → o ∈ tl.registry) : Settled o tl' where
  coherent := hcoherent
  answers d before a after hmem := by
    rw [hhost] at hmem
    rcases List.mem_append.mp hmem with hmem | hmem
    · exact h.answers d before a after hmem
    · obtain ⟨i, -, hi⟩ := List.mem_map.mp hmem
      exact nomatch hi
  remains past m rest view hsplit hview hpast := by
    obtain ⟨rest', hbefore, rfl⟩ := Narrative.split_incidents (hhost.symm.trans hsplit) hview
    have hfirst := h.remains past m rest' view hbefore hview hpast
    have hsince := hfirst.spent.isDisconnected
    exact hfirst.trans ⟨spent_of_isDisconnected hcoherent (hgone hsince), hquiet hsince, hopen,
      fun hmem => .inl (hregistry hsince hmem)⟩

/-- A small change of the observers that is not told. -/
theorem Settled.with_observers (h : Settled o tl) (hhost : tl'.host = tl.host)
    (hopen : tl'.isOpen = tl.isOpen) (hregistry : tl'.registry = tl.registry)
    (hcoherent : ∀ p s, tl'.observer? p = some s → s.Coherent)
    (hgone : tl.isDisconnected o = true → tl'.isDisconnected o = true) : Settled o tl' :=
  have hhost' : tl'.host = tl.host ++ List.map Moment.incident [] := hhost.trans (List.append_nil _).symm
  h.extend hhost' hcoherent hgone (fun _ => List.not_mem_nil) (fun ho => hopen ▸ ho)
    fun _ hmem => hregistry ▸ hmem

/-- A small change of the registry and the owners that is not told. -/
theorem Settled.with_frame (h : Settled o tl) (hhost : tl'.host = tl.host)
    (hobserver : ∀ p, tl'.observer? p = tl.observer? p)
    (hopen : tl'.isOpen = true → tl.isOpen = true)
    (hregistry : tl.isDisconnected o = true → o ∈ tl'.registry → o ∈ tl.registry) : Settled o tl' := by
  have hhost' : tl'.host = tl.host ++ List.map Moment.incident [] := hhost.trans (List.append_nil _).symm
  refine h.extend hhost' (fun p s hs => h.coherent p s (hobserver p ▸ hs)) (fun hgone => ?_)
    (fun _ => List.not_mem_nil) hopen hregistry
  unfold isDisconnected
  rw [hobserver]
  exact hgone

/-- The beginning or the end of a deed is told, as the timeline stands. -/
theorem Settled.note (h : Settled o tl) {m : Moment} (hview : m.view? = some tl.bare)
    (hanswers : ∀ d before a after, m = .ended d before a after → d.Respects o before a after) :
    Settled o (tl.note m) where
  coherent := h.coherent
  answers d before a after hmem := by
    rcases List.mem_append.mp hmem with hmem | hmem
    · exact h.answers d before a after hmem
    · exact hanswers d before a after (List.mem_singleton.mp hmem).symm
  remains past m' rest view hsplit hview' hpast := by
    have hquiet : o ∉ Narrative.requested [m] := by
      cases m with
      | incident i => exact nomatch hview
      | begun d before => exact List.not_mem_nil
      | ended d before a after => exact List.not_mem_nil
    have here (hgone : tl.isDisconnected o = true) : Remains o tl.bare [m] (tl.note m) :=
      ⟨spent_of_isDisconnected h.coherent hgone, hquiet, id, .inl⟩
    rcases Narrative.split_concat hsplit with ⟨rest', hbefore, rfl⟩ | ⟨rfl, rfl, rfl⟩
    · have hfirst := h.remains past m' rest' view hbefore hview' hpast
      exact hfirst.trans (here hfirst.spent.isDisconnected)
    · obtain rfl : tl.bare = view := Option.some.inj (hview.symm.trans hview')
      exact here hpast

end Small

/-! ### All small changes -/

theorem settled_new (o : ObserverId) (capacities : Capacities) : Settled o (new capacities []) where
  coherent p s hs := by simp [new, observer?] at hs
  answers _ _ _ _ hmem := absurd hmem List.not_mem_nil
  remains _ _ _ _ hsplit := absurd hsplit.symm (List.append_ne_nil_of_right_ne_nil _ nofun)

section Small

variable {tl : Timeline Narrative} {p : ObserverId} {s next : Observer}

theorem coherent_setObserver (h : ∀ q s, tl.observer? q = some s → s.Coherent)
    (hs : tl.observer? p = some s) (hnext : next.Coherent) (q : ObserverId) (s' : Observer)
    (hs' : (tl.setObserver p next).observer? q = some s') : s'.Coherent := by
  by_cases hq : q = p
  · subst hq
    rw [observer?_setObserver_self tl (lt_length_of_observer? hs)] at hs'
    rwa [← Option.some.inj hs']
  · rw [observer?_setObserver_of_ne tl hq] at hs'
    exact h q s' hs'

theorem isDisconnected_setObserver (hs : tl.observer? p = some s)
    (hnext : s.isDisconnected = true → next.isDisconnected = true) (hgone : tl.isDisconnected o = true) :
    (tl.setObserver p next).isDisconnected o = true := by
  by_cases hp : o = p
  · subst hp
    obtain ⟨s', hs', hd⟩ := isDisconnected_iff.mp hgone
    obtain rfl := Option.some.inj (hs.symm.trans hs')
    exact isDisconnected_iff.mpr
      ⟨next, observer?_setObserver_self tl (lt_length_of_observer? hs) next, hnext hd⟩
  · unfold isDisconnected
    rw [observer?_setObserver_of_ne tl hp]
    exact hgone

theorem observer?_modify_owners (tl : Timeline ε) (p q : ObserverId) (f : Nat → Nat) :
    ({ tl with slots := tl.slots.modify p fun s => { s with owners := f s.owners } } :
      Timeline ε).observer? q = tl.observer? q := by
  simp only [observer?, List.getElem?_modify]
  cases tl.slots[q]? <;> by_cases hq : p = q <;> simp [hq]

end Small

theorem kept_settled (o : ObserverId) : Kept (Settled o) where
  enter {tl} d h := by
    have hbegun : Settled o (tl.note (.begun d tl.bare)) := h.note rfl fun _ _ _ _ heq => nomatch heq
    unfold enter
    rw [record_scribe]
    refine hbegun.extend rfl h.coherent id (fun _ => ?_) id fun _ => id
    rw [requested_traced]
    exact List.not_mem_nil
  react {tl p s next} h hs hnext := by
    have hcoherent := hnext.coherent (h.coherent p s hs)
    have hgone : s.isDisconnected = true → next.1.isDisconnected = true := fun hd => by
      rw [hnext.eq_of_isDisconnected hd]
      exact hd
    rw [react_scribe]
    refine h.extend rfl (coherent_setObserver h.coherent hs hcoherent)
      (isDisconnected_setObserver hs hgone) (fun ho => ?_) id fun _ => id
    -- Only `p` itself could be requested, and if that is `o` it does not respond.
    rw [requested_response hs]
    cases hw : next.2.wakes with
    | false => exact List.not_mem_nil
    | true =>
      rw [if_pos rfl, List.mem_singleton]
      rintro rfl
      obtain ⟨s', hs', hd⟩ := isDisconnected_iff.mp ho
      obtain rfl := Option.some.inj (hs.symm.trans hs')
      rw [hnext.eq_of_isDisconnected hd] at hw
      exact nomatch hw
  take {tl p s} sorted h hs := by
    have hcoherent := Observer.coherent_take (h.coherent p s hs) sorted
    exact h.with_observers rfl rfl rfl (coherent_setObserver h.coherent hs hcoherent)
      (isDisconnected_setObserver hs (Observer.isDisconnected_take s sorted).trans)
  enroll {tl p} h hopen hconnected := by
    refine h.with_frame rfl (fun _ => rfl) id fun hgone hmem => ?_
    rcases Registry.mem_of_mem_register hmem with hmem | rfl
    · exact hmem
    · obtain ⟨s, hs, hd⟩ := isDisconnected_iff.mp hgone
      rw [isConnected_eq_not hs, hd] at hconnected
      exact nomatch hconnected
  register {tl p before} h hbegun := by
    refine ⟨h.coherent, h.answers, fun past m rest view hsplit hview hpast => ?_⟩
    have hhost : tl.host = past ++ m :: rest := hsplit
    have hfirst := h.remains past m rest view hhost hview hpast
    refine ⟨hfirst.spent, hfirst.quiet, hfirst.isOpen, fun hmem => ?_⟩
    rcases Registry.mem_of_mem_register hmem with hmem | rfl
    · exact hfirst.registry hmem
    · rw [hhost, List.getLast?_append, List.getLast?_cons, Option.some_or, ← List.getLast?_cons] at hbegun
      exact .inr ⟨before, List.mem_of_getLast? hbegun⟩
  unregister {tl} p h := h.with_frame rfl (fun _ => rfl) id fun _ => Registry.mem_of_mem_unregister
  prune {tl} h := h.with_frame rfl (fun _ => rfl) id fun _ hmem => (Registry.mem_prune.mp hmem).1
  retain {tl} h hopen := h.with_frame rfl (fun _ => rfl) (fun _ => hopen) fun _ => id
  release {tl} h := by
    refine h.with_frame rfl (fun _ => rfl) (fun hopen => ?_) fun _ => id
    simp only [isOpen, release, bne_iff_ne] at hopen ⊢
    omega
  owners {tl} p f h := h.with_frame rfl (fun q => observer?_modify_owners tl p q f) id fun _ => id
  create {tl} limit route h := by
    have hobserver := observer?_append_slot tl limit route
    refine h.with_observers rfl rfl rfl (fun p s hs => ?_) fun hgone => ?_
    · rw [hobserver] at hs
      split at hs
      · rw [← Option.some.inj hs]
        exact Observer.coherent_new limit
      · exact h.coherent p s hs
    · obtain ⟨s, hs, hd⟩ := isDisconnected_iff.mp hgone
      have hne : o ≠ tl.slots.length := Nat.ne_of_lt (lt_length_of_observer? hs)
      refine isDisconnected_iff.mpr ⟨s, ?_, hd⟩
      rw [hobserver, if_neg hne]
      exact hs
  tell {hooks tl} d h hdone := by
    refine hdone.note rfl fun d' before a after heq => ?_
    obtain ⟨rfl, rfl, rfl, rfl⟩ := Moment.ended.inj heq
    have hcoherent : ∀ s, (tl.note (.begun d tl.bare)).observer? o = some s → s.Coherent := h.coherent o
    exact respects_act hooks hcoherent d

/-- Whatever is done in a run, by callbacks or otherwise: a disconnection disconnects, and wherever an observer
is found disconnected it is spent ever after, at each later moment and in the end. To disconnect it again
changes nothing. -/
theorem disconnected_for_good (plan : Plan) (depth : Nat) (ds : List Deed) (capacities : Capacities)
    (o : ObserverId) :
    let tl := (new capacities []).narrate (.narrated plan depth) ds
    Settled o tl ∧ tl.host.Throughout (Settled o) ∧
      ∀ (hooks : Hooks Narrative) (t : Timeline Narrative), t.isDisconnected o = true →
        (t.perform hooks (.disconnect o)).1 = t := by
  obtain ⟨hend, hall⟩ := (kept_settled o).narrate plan depth ds capacities (settled_new o capacities)
  exact ⟨hend, hall, fun hooks t => disconnect_of_isDisconnected⟩

end Timeline

end PerfTimeline
