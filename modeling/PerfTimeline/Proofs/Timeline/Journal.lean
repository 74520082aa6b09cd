import PerfTimeline.Module.Basic
import PerfTimeline.Proofs.Timeline.Sound

/-!
# Requests to be dispatched

`Hooks.journal` is a host that takes note of everything it is told and asked, and does nothing else.
`requests` picks out of the journal what was asked for one observer.

`Rouses` is what every operation does to an observer but drains and disconnections of its own: an observer
that becomes pending has been requested exactly once, and otherwise nothing was asked for it. It is
reflexive and transitive, so it is proved piece by piece, down to a push and a subscription.
-/

namespace PerfTimeline

/-- Something the host was told or asked. -/
inductive Incident where
  | traced (event : TraceEvent)
  | scheduled (priority : Priority) (o : ObserverId)
  | called (o : ObserverId)
deriving DecidableEq

/-- Everything the host was told and asked, in order. -/
abbrev Journal := List Incident

/-- A host that keeps a journal. -/
def Hooks.journal : Hooks Journal where
  trace event host := host ++ [.traced event]
  schedule priority o host := host ++ [.scheduled priority o]
  call o tl := { tl with host := tl.host ++ [.called o] }

theorem Hooks.passive_journal : Hooks.journal.Passive := fun _ _ => ⟨_, rfl⟩

/-- Whether an incident is a request to dispatch `o`. -/
def Incident.isFor (o : ObserverId) : Incident → Bool
  | traced _ => false
  | scheduled _ p => p == o
  | called p => p == o

/-- How an observer is requested: its callback is called, or scheduled as an idle task. -/
def Route.request (o : ObserverId) : Route → Incident
  | direct => .called o
  | scheduled => .scheduled .idle o

/-- The requests to dispatch `o`. -/
def requests (o : ObserverId) (journal : Journal) : List Incident := journal.filter (Incident.isFor o)

namespace Timeline

variable {tl tl' tl'' : Timeline Journal} {o : ObserverId}

/-- Whether an observer is pending. -/
def isPending {ε : Type} (tl : Timeline ε) (o : ObserverId) : Bool :=
  (tl.observer? o).any (·.status == .pending)

/-- How an observer is dispatched. -/
def route? {ε : Type} (tl : Timeline ε) (o : ObserverId) : Option Route := tl.slots[o]?.map (·.route)

/-- What it takes to request `o` once. -/
def request {ε : Type} (tl : Timeline ε) (o : ObserverId) : List Incident :=
  ((tl.route? o).map (Route.request o)).toList

/-! ### Rousing -/

/-- From `tl` to `tl'`, `o` was requested once if it was not pending and is now, and else not at all. -/
structure Rouses (o : ObserverId) (tl tl' : Timeline Journal) : Prop where
  route : tl'.route? o = tl.route? o
  rested : tl.isPending o = false →
    requests o tl'.host = requests o tl.host ++ if tl'.isPending o then tl.request o else []
  pending : tl.isPending o = true → tl'.isPending o = true ∧ requests o tl'.host = requests o tl.host

theorem Rouses.request_eq (h : Rouses o tl tl') : tl'.request o = tl.request o := by
  unfold request
  rw [h.route]

theorem Rouses.of_frame (hobs : tl'.observer? o = tl.observer? o) (hroute : tl'.route? o = tl.route? o)
    (hhost : requests o tl'.host = requests o tl.host) : Rouses o tl tl' := by
  have hp : tl'.isPending o = tl.isPending o := by
    unfold isPending
    rw [hobs]
  refine ⟨hroute, ?_, ?_⟩
  · intro h
    rw [hp, h, hhost]
    exact (List.append_nil _).symm
  · intro h
    exact ⟨hp.trans h, hhost⟩

theorem Rouses.refl (o : ObserverId) (tl : Timeline Journal) : Rouses o tl tl := .of_frame rfl rfl rfl

theorem Rouses.trans (h : Rouses o tl tl') (h' : Rouses o tl' tl'') : Rouses o tl tl'' := by
  refine ⟨h'.route.trans h.route, ?_, ?_⟩
  · intro hp
    have hfirst := h.rested hp
    cases hp' : tl'.isPending o with
    | false =>
      rw [hp'] at hfirst
      rw [h'.rested hp', hfirst, h.request_eq]
      simp
    | true =>
      obtain ⟨hp'', hsame⟩ := h'.pending hp'
      rw [hp'] at hfirst
      rw [hsame, hfirst, hp'']
  · intro hp
    obtain ⟨hp', hsame⟩ := h.pending hp
    obtain ⟨hp'', hsame'⟩ := h'.pending hp'
    exact ⟨hp'', hsame'.trans hsame⟩

/-! ### The pieces -/

theorem requests_append (o : ObserverId) (a b : Journal) :
    requests o (a ++ b) = requests o a ++ requests o b := List.filter_append ..

theorem requests_request (tl : Timeline Journal) (o p : ObserverId) :
    requests o (tl.request p) = if p = o then tl.request o else [] := by
  have hfor (r : Route) : Incident.isFor o (r.request p) = (p == o) := by cases r <;> rfl
  unfold request
  cases hr : tl.route? p with
  | none => by_cases hp : p = o <;> simp_all [requests]
  | some r => by_cases hp : p = o <;> simp_all [requests]

theorem host_emit (events : List TraceEvent) (tl : Timeline Journal) :
    (tl.emit .journal events).host = tl.host ++ events.map .traced := by
  have h (host : Journal) : events.foldl (fun host e => Hooks.journal.trace e host) host =
      host ++ events.map .traced := by
    induction events generalizing host with
    | nil => exact (List.append_nil host).symm
    | cons e events ih =>
      rw [List.foldl_cons, ih, List.map_cons]
      exact List.append_assoc host [.traced e] _
  exact h tl.host

theorem requests_emit (o : ObserverId) (events : List TraceEvent) (tl : Timeline Journal) :
    requests o (tl.emit .journal events).host = requests o tl.host := by
  have hnone : requests o (events.map Incident.traced) = [] := by
    unfold requests
    rw [List.filter_eq_nil_iff]
    intro i hi
    obtain ⟨e, -, rfl⟩ := List.mem_map.mp hi
    exact Bool.false_ne_true
  rw [host_emit, requests_append, hnone, List.append_nil]

theorem dispatch_journal (p : ObserverId) (tl : Timeline Journal) :
    tl.dispatch .journal p = { tl with host := tl.host ++ .traced .dispatchRequested :: tl.request p } := by
  have hemit : tl.emit .journal [.dispatchRequested] =
      { tl with host := tl.host ++ [.traced .dispatchRequested] } := rfl
  unfold dispatch request route?
  dsimp only
  rw [hemit]
  dsimp only
  cases hs : tl.slots[p]? with
  | none => simp
  | some slot => cases hr : slot.route <;> simp [hr, Hooks.journal, Route.request]

theorem requests_dispatch (o p : ObserverId) (tl : Timeline Journal) :
    requests o (tl.dispatch .journal p).host =
      requests o tl.host ++ if p = o then tl.request o else [] := by
  rw [dispatch_journal, ← requests_request tl o p]
  exact requests_append o _ _

theorem route?_setObserver {ε : Type} (tl : Timeline ε) (p o : ObserverId) (s : Observer) :
    (tl.setObserver p s).route? o = tl.route? o := by
  simp only [setObserver, route?, List.getElem?_modify]
  cases tl.slots[o]? <;> by_cases hp : p = o <;> simp [hp]

theorem react_journal (tl : Timeline Journal) (o p : ObserverId) (next : Observer × Observer.Reaction) :
    (tl.react .journal p next).slots = (tl.setObserver p next.1).slots ∧
      requests o (tl.react .journal p next).host =
        requests o tl.host ++ if next.2.wakes ∧ p = o then tl.request o else [] := by
  have hemit : requests o ((tl.setObserver p next.1).emit .journal next.2.events).host =
      requests o tl.host := requests_emit o _ _
  have hrequest : ((tl.setObserver p next.1).emit .journal next.2.events).request o = tl.request o := by
    unfold request
    exact congrArg (fun r => (r.map (Route.request o)).toList) (route?_setObserver tl p o next.1)
  unfold react
  dsimp only
  cases next.2.wakes with
  | true =>
    rw [if_pos rfl, requests_dispatch, hemit, hrequest]
    refine ⟨?_, by simp⟩
    rw [dispatch_journal]
    rfl
  | false => exact ⟨rfl, by simp [hemit]⟩

theorem route?_react (o p : ObserverId) (next : Observer × Observer.Reaction) (tl : Timeline Journal) :
    (tl.react .journal p next).route? o = tl.route? o := by
  unfold route?
  rw [(react_journal tl o p next).1]
  exact route?_setObserver tl p o next.1

theorem observer?_react (o p : ObserverId) (next : Observer × Observer.Reaction) (tl : Timeline Journal) :
    (tl.react .journal p next).observer? o = (tl.setObserver p next.1).observer? o := by
  unfold observer?
  rw [(react_journal tl o p next).1]

theorem rouses_react_of_ne {p : ObserverId} (hp : p ≠ o) (next : Observer × Observer.Reaction)
    (tl : Timeline Journal) : Rouses o tl (tl.react .journal p next) := by
  refine .of_frame ?_ (route?_react o p next tl) ?_
  · exact (observer?_react o p next tl).trans (observer?_setObserver_of_ne tl (Ne.symm hp) next.1)
  · simp [(react_journal tl o p next).2, hp]

/-- A new state of an observer keeps its requests right if it wakes up just when it becomes pending, and
changes its status only while idle. -/
theorem rouses_react {s : Observer} (hs : tl.observer? o = some s)
    {next : Observer × Observer.Reaction} (hwakes : next.2.wakes = s.wakes next.1)
    (hstatus : s.status ≠ .idle → next.1.status = s.status) :
    Rouses o tl (tl.react .journal o next) := by
  have hnext : (tl.react .journal o next).observer? o = some next.1 :=
    (observer?_react o o next tl).trans
      (observer?_setObserver_self tl (lt_length_of_observer? hs) next.1)
  have hafter : (tl.react .journal o next).isPending o = (next.1.status == .pending) := by
    simp [isPending, hnext]
  have hbefore : tl.isPending o = (s.status == .pending) := by simp [isPending, hs]
  have hhost := (react_journal tl o o next).2
  refine ⟨route?_react o o next tl, ?_, ?_⟩
  · intro hrest
    rw [hbefore] at hrest
    rw [hhost, hafter, hwakes]
    unfold Observer.wakes
    cases hst : s.status with
    | idle => simp
    | pending => simp [hst] at hrest
    | disconnected => simp [hstatus (by simp [hst]), hst]
  · intro hpend
    have hst : s.status = .pending := by simpa [hbefore] using hpend
    rw [hhost, hafter, hwakes]
    unfold Observer.wakes
    simp [hst, hstatus (by simp [hst])]

/-! ### Deliveries -/

theorem rouses_push (o p : ObserverId) (e : Entry) (tl : Timeline Journal) :
    Rouses o tl (tl.push .journal p e).1 := by
  unfold push
  split
  · exact .refl o tl
  · rename_i s hs
    by_cases hp : p = o
    · subst hp
      exact rouses_react hs (Observer.push_wakes s e) fun h => Observer.status_push h e
    · exact rouses_react_of_ne hp _ tl

theorem route?_modify_owners {ε : Type} (tl : Timeline ε) (p o : ObserverId) (f : Nat → Nat) :
    ({ tl with slots := tl.slots.modify p fun s => { s with owners := f s.owners } } :
      Timeline ε).route? o = tl.route? o := by
  simp only [route?, List.getElem?_modify]
  cases tl.slots[o]? <;> by_cases hp : p = o <;> simp [hp]

theorem rouses_retainObserver (o p : ObserverId) (tl : Timeline Journal) :
    Rouses o tl (tl.retainObserver p) :=
  .of_frame (observer?_retainObserver tl p o) (route?_modify_owners tl p o (· + 1)) rfl

theorem rouses_releaseObserver (o p : ObserverId) (tl : Timeline Journal) :
    Rouses o tl (tl.releaseObserver p) :=
  .of_frame (observer?_releaseObserver tl p o) (route?_modify_owners tl p o (· - 1)) rfl

theorem rouses_deliver (o : ObserverId) (e : Entry) (os : List ObserverId) (tl : Timeline Journal) :
    Rouses o tl (tl.deliver .journal e os) := by
  have retained (os : List ObserverId) (tl : Timeline Journal) :
      Rouses o tl (os.foldl retainObserver tl) := by
    induction os generalizing tl with
    | nil => exact .refl o tl
    | cons p os ih => exact (rouses_retainObserver o p tl).trans (ih _)
  have offered (os : List ObserverId) (tl : Timeline Journal) :
      Rouses o tl (os.foldl (offer .journal e) tl) := by
    induction os generalizing tl with
    | nil => exact .refl o tl
    | cons p os ih =>
      have hpush := rouses_push o p e tl
      exact (hpush.trans (rouses_releaseObserver o p _)).trans (ih _)
  exact (retained os tl).trans (offered os _)

theorem rouses_fanOut (o : ObserverId) (e : Entry) (tl : Timeline Journal) :
    Rouses o tl (tl.fanOut .journal e) := by
  have hprune : Rouses o tl tl.prune := .of_frame rfl rfl rfl
  exact hprune.trans (rouses_deliver o e _ _)

theorem rouses_record (o : ObserverId) (next : Recorder × List TraceEvent) (tl : Timeline Journal) :
    Rouses o tl (tl.record .journal next) := .of_frame rfl rfl (requests_emit o next.2 _)

theorem rouses_report (o : ObserverId) (e : Entry) (tl : Timeline Journal) :
    Rouses o tl (tl.report .journal e).1 :=
  (rouses_record o _ tl).trans (rouses_fanOut o _ _)

/-! ### Subscriptions -/

theorem rouses_enroll (o p : ObserverId) (tl : Timeline Journal) : Rouses o tl (tl.enroll p) := by
  unfold enroll
  split
  · exact .of_frame rfl rfl rfl
  · exact .refl o tl

theorem rouses_observeOne (o p : ObserverId) (t : EntryType) (options : ObserveOptions)
    (tl : Timeline Journal) : Rouses o tl (tl.observeOne .journal p t options) := by
  have reacted (t' : Timeline Journal) {s : Observer} (hs : t'.observer? p = some s)
      (stored : Option (List Entry)) :
      Rouses o t' (t'.react .journal p (s.observeOne t options stored)) := by
    by_cases hp : p = o
    · subst hp
      exact rouses_react hs (Observer.observeOne_wakes s t options stored) fun h =>
        Observer.status_observeOne h t options stored
    · exact rouses_react_of_ne hp _ t'
  unfold observeOne
  split
  · exact .refl o tl
  · rename_i s hs
    dsimp only
    split
    · exact .refl o tl
    · split
      · have hs' : ((tl.enroll p).retain).observer? p = some s := (observer?_enroll tl p p).trans hs
        have hretain : Rouses o (tl.enroll p) (tl.enroll p).retain := .of_frame rfl rfl rfl
        have hreact := reacted (tl.enroll p).retain hs' (some (tl.recorder.select t none))
        exact (((rouses_enroll o p tl).trans hretain).trans hreact).trans (.of_frame rfl rfl rfl)
      · exact reacted tl hs none

theorem rouses_observeMany (o p : ObserverId) (types : List EntryType) (tl : Timeline Journal) :
    Rouses o tl (tl.observeMany .journal p types) := by
  unfold observeMany
  split
  · exact .refl o tl
  · rename_i s hs
    split
    · exact .refl o tl
    · refine (rouses_enroll o p tl).trans ?_
      have hs' : (tl.enroll p).observer? p = some s := (observer?_enroll tl p p).trans hs
      have hstatus := Observer.status_observeMany s types
      by_cases hp : p = o
      · subst hp
        refine rouses_react hs' ?_ fun _ => hstatus
        rw [Observer.wakes_of_status_eq hstatus]
        unfold Observer.observeMany
        split <;> rfl
      · exact rouses_react_of_ne hp _ _

/-! ### Operations -/

theorem rouses_onLive {act : Timeline Journal → Timeline Journal × Answer} (o p : ObserverId)
    (tl : Timeline Journal) (h : Rouses o tl (act tl).1) : Rouses o tl (tl.onLive p act).1 := by
  unfold onLive
  split
  · exact h
  · exact .refl o tl

/-- Every operation that neither drains nor disconnects an observer, nor makes it. -/
theorem rouses_perform {op : Operation} (hdrains : op.drains o = false)
    (hdisconnects : op.disconnects o = false)
    (hmade : ∀ limit route, op = .create limit route → o ≠ tl.slots.length) :
    Rouses o tl (tl.perform .journal op).1 := by
  cases op with
  | report e => exact rouses_report o e tl
  | reportEvent name start duration timing =>
    have hcount : Rouses o tl { tl with recorder := tl.recorder.countEvent name } := .of_frame rfl rfl rfl
    exact hcount.trans (rouses_report o _ _)
  | clear t name => exact rouses_record o _ tl
  | clearAll => exact rouses_record o _ tl
  | resetDropped => exact .of_frame rfl rfl rfl
  | clearCounts => exact .of_frame rfl rfl rfl
  | create limit route =>
    have hslot : (tl.create limit route).1.slots[o]? = tl.slots[o]? := by
      simp only [create, List.getElem?_append]
      split
      · rfl
      · rename_i hlt
        have hne := hmade limit route rfl
        have hlt' : tl.slots.length < o := Nat.lt_of_le_of_ne (Nat.le_of_not_lt hlt) (Ne.symm hne)
        have hpos : 0 < o - tl.slots.length := Nat.sub_pos_of_lt hlt'
        rw [List.getElem?_eq_none (Nat.le_of_not_lt hlt), List.getElem?_eq_none]
        exact hpos
    refine .of_frame ?_ ?_ rfl
    · exact congrArg (Option.map (·.observer)) hslot
    · exact congrArg (Option.map (·.route)) hslot
  | clone p => exact rouses_onLive o p tl (rouses_retainObserver o p tl)
  | drop p => exact rouses_releaseObserver o p tl
  | observeOne p t options => exact rouses_onLive o p tl (rouses_observeOne o p t options tl)
  | observeMany p types => exact rouses_onLive o p tl (rouses_observeMany o p types tl)
  | take p sorted =>
    have hp : p ≠ o := by simpa [Operation.drains] using hdrains
    refine rouses_onLive o p tl ?_
    dsimp only
    unfold take
    split
    · exact .refl o tl
    · exact .of_frame (observer?_setObserver_of_ne tl (Ne.symm hp) _) (route?_setObserver tl p o _) rfl
  | disconnect p =>
    have hp : p ≠ o := by simpa [Operation.disconnects] using hdisconnects
    refine rouses_onLive o p tl ?_
    dsimp only
    unfold disconnect
    split
    · exact .refl o tl
    · split
      · exact .refl o tl
      · have hleft : Rouses o tl (if tl.isOpen then tl.unregister p else tl) := by
          split
          · exact .of_frame rfl rfl rfl
          · exact .refl o tl
        exact hleft.trans (rouses_react_of_ne hp _ _)
  | push p e => exact rouses_onLive o p tl (rouses_push o p e tl)
  | register p => exact rouses_onLive o p tl (.of_frame rfl rfl rfl)
  | unregister p => exact rouses_onLive o p tl (.of_frame rfl rfl rfl)
  | fanOut e => exact rouses_fanOut o e tl
  | close => exact .of_frame rfl rfl rfl

/-- A drain or a disconnection asks for nothing, and leaves a living observer not pending. -/
structure Settles (o : ObserverId) (tl tl' : Timeline Journal) : Prop where
  route : tl'.route? o = tl.route? o
  requests : requests o tl'.host = requests o tl.host
  rested : tl'.isPending o = false

theorem isPending_take (s : Observer) (sorted : Bool) : ((s.take sorted).1.status == .pending) = false := by
  unfold Observer.take
  dsimp only
  split
  · rfl
  · simpa using ‹_›

theorem settles_take (hl : tl.isLive o = true) (sorted : Bool) :
    Settles o tl (tl.perform .journal (.take o sorted)).1 := by
  have hlt := lt_length_of_isLive hl
  simp only [perform, onLive, hl, ite_true]
  unfold take
  split
  · rename_i hs
    exact ⟨rfl, rfl, by simp [isPending, hs]⟩
  · rename_i s hs
    refine ⟨route?_setObserver tl o o _, rfl, ?_⟩
    simp only [isPending, observer?_setObserver_self tl hlt, Option.any_some]
    exact isPending_take s sorted

theorem settles_disconnect (hl : tl.isLive o = true) :
    Settles o tl (tl.perform .journal (.disconnect o)).1 := by
  have hlt := lt_length_of_isLive hl
  simp only [perform, onLive, hl, ite_true]
  unfold disconnect
  split
  · rename_i hs
    exact ⟨rfl, rfl, by simp [isPending, hs]⟩
  · rename_i s hs
    split
    · rename_i hd
      have hst : s.status = .disconnected := by simpa [Observer.isDisconnected] using hd
      exact ⟨rfl, rfl, by simp [isPending, hs, hst]⟩
    · rename_i hd
      have hwakes : s.disconnect.2.wakes = false := by
        unfold Observer.disconnect
        split <;> rfl
      have hstatus : s.disconnect.1.status = .disconnected := by simp [Observer.disconnect, hd]
      have left : (if tl.isOpen then tl.unregister o else tl).slots = tl.slots ∧
          (if tl.isOpen then tl.unregister o else tl).host = tl.host := by
        split <;> exact ⟨rfl, rfl⟩
      generalize (if tl.isOpen then tl.unregister o else tl) = t at left
      obtain ⟨hslots, hhost⟩ := left
      have hlt' : o < t.slots.length := hslots ▸ hlt
      refine ⟨?_, ?_, ?_⟩
      · rw [route?_react]
        unfold route?
        rw [hslots]
      · rw [(react_journal t o o _).2, hwakes, hhost]
        simp
      · unfold isPending
        rw [observer?_react, observer?_setObserver_self t hlt', Option.any_some, hstatus]
        rfl

end Timeline

end PerfTimeline
