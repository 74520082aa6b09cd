import PerfTimeline.Proofs.Timeline.Journal
import PerfTimeline.Proofs.Timeline.Told

/-!
# Runs told in full

A callback may operate the timeline in the middle of an operation, and callbacks of its own operations may do
so again. A narrative tells such a run in one line: what the host was told and asked, and each operation twice,
where it begins and where it ends, with the timeline as it stands there. `Upheld` lists the steps that all
operations are made up of; what each of them keeps is kept by every run, however deep its callbacks nest
(`Upheld.narrate`). Where it does not matter which operation an observer responds to, a step is made up of
smaller changes still, and what each of those keeps is kept as well (`Kept.narrate`).
-/

namespace PerfTimeline

variable {ε : Type}

/-- What anyone may do to a timeline: operate it, or have an entry offered to those observers that another
registry lists and that are alive. -/
inductive Deed where
  | operate (op : Operation)
  | offer (os : List ObserverId) (e : Entry)
deriving DecidableEq

/-- Something that happens in the course of a run. -/
inductive Moment where
  | incident (i : Incident)
  | begun (d : Deed) (before : Timeline Unit)
  | ended (d : Deed) (before : Timeline Unit) (a : Answer) (after : Timeline Unit)

/-- Everything that happens in the course of a run, in order. -/
abbrev Narrative := List Moment

/-- The timeline as it stands where a deed begins or ends. -/
def Moment.view? : Moment → Option (Timeline Unit)
  | incident _ => none
  | begun _ before => some before
  | ended _ _ _ after => some after

/-- The observer that the host is asked to dispatch. -/
def Moment.requested? : Moment → Option ObserverId
  | incident (.called o) => some o
  | incident (.scheduled _ o) => some o
  | _ => none

/-- The observers that the host was asked to dispatch, as often as it was. -/
def Narrative.requested (n : Narrative) : List ObserverId := n.filterMap Moment.requested?

/-- A host that puts down what it is told and asked, and does nothing else. -/
def Hooks.scribe : Hooks Narrative where
  trace event host := host ++ [.incident (.traced event)]
  schedule priority o host := host ++ [.incident (.scheduled priority o)]
  call o tl := { tl with host := tl.host ++ [.incident (.called o)] }

namespace Deed

def onRecorder : Deed → Recorder → Recorder
  | operate op, r => op.onRecorder r
  | offer .., r => r

def events : Deed → Recorder → List TraceEvent
  | operate op, r => op.events r
  | offer .., _ => []

end Deed

namespace Timeline

/-- A timeline without its host. -/
def bare (tl : Timeline ε) : Timeline Unit where
  recorder := tl.recorder
  owners := tl.owners
  registry := tl.registry
  slots := tl.slots
  host := ()

def act (hooks : Hooks ε) (tl : Timeline ε) : Deed → Timeline ε × Answer
  | .operate op => tl.perform hooks op
  | .offer os e => (tl.deliver hooks e (Registry.prune tl.isLive os), .done)

def note (m : Moment) (tl : Timeline Narrative) : Timeline Narrative := { tl with host := tl.host ++ [m] }

/-- Do a deed and tell where it begins and ends. -/
def tell (hooks : Hooks Narrative) (tl : Timeline Narrative) (d : Deed) : Timeline Narrative :=
  let (next, a) := (tl.note (.begun d tl.bare)).act hooks d
  next.note (.ended d tl.bare a next.bare)

def narrate (hooks : Hooks Narrative) (tl : Timeline Narrative) (ds : List Deed) : Timeline Narrative :=
  ds.foldl (tell hooks) tl

/-- The first thing that comes of a deed is what it does to the recorder. -/
def enter (tl : Timeline Narrative) (d : Deed) : Timeline Narrative :=
  (tl.note (.begun d tl.bare)).record .scribe (d.onRecorder tl.recorder, d.events tl.recorder)

end Timeline

/-- What a callback does, depending on all that was told and on the timeline it finds. -/
abbrev Plan := ObserverId → Timeline Narrative → List Deed

/-- Each callback does what a plan says, with callbacks nested at most so deep. All of it is told. -/
def Hooks.narrated (plan : Plan) : Nat → Hooks Narrative
  | 0 => .scribe
  | depth + 1 =>
    { Hooks.scribe with
      call := fun o tl =>
        let asked := Hooks.scribe.call o tl
        asked.narrate (narrated plan depth) (plan o asked) }

/-! ### Small changes -/

/-- What an observer can be made to do that its host may hear of. -/
inductive Observer.Responds (s : Observer) : Observer × Observer.Reaction → Prop
  | push (e : Entry) : Responds s (s.push e)
  | observeOne (t : EntryType) (options : ObserveOptions) (stored : Option (List Entry)) :
    Responds s (s.observeOne t options stored)
  | observeMany (types : List EntryType) : Responds s (s.observeMany types)
  | disconnect : Responds s s.disconnect

/-- Of storage nothing is told there, and no dispatch is requested yet. -/
def TraceEvent.isOfObserver : TraceEvent → Bool
  | queueFull .. | observingOne .. | observingMany .. | disconnected => true
  | _ => false

namespace Observer

theorem enqueue_isOfObserver (s : Observer) (e : Entry) :
    ∀ event ∈ (s.enqueue e).2, event.isOfObserver = true := by
  unfold enqueue
  split
  · exact nofun
  · intro event hevent
    rw [List.mem_singleton.mp hevent]
    rfl

theorem enqueueAll_isOfObserver (s : Observer) (es : List Entry) :
    ∀ event ∈ (s.enqueueAll es).2, event.isOfObserver = true := by
  refine List.foldlRecOn es _ (fun _ hevent => absurd hevent List.not_mem_nil)
    (motive := fun next : Observer × List TraceEvent => ∀ event ∈ next.2, event.isOfObserver = true) ?_
  intro next hnext e _
  exact List.forall_mem_append.mpr ⟨hnext, enqueue_isOfObserver next.1 e⟩

theorem Responds.isOfObserver {s : Observer} {next : Observer × Reaction} (h : s.Responds next) :
    ∀ event ∈ next.2.events, event.isOfObserver = true := by
  cases h with
  | push e =>
    unfold Observer.push
    split
    · dsimp only
      split <;> exact enqueue_isOfObserver s e
    · exact nofun
  | observeOne t options stored =>
    unfold Observer.observeOne
    split
    · exact nofun
    · refine List.forall_mem_append.mpr ⟨enqueueAll_isOfObserver _ _, ?_⟩
      exact List.forall_mem_singleton.mpr rfl
  | observeMany types =>
    unfold Observer.observeMany
    split
    · exact nofun
    · exact List.forall_mem_singleton.mpr rfl
  | disconnect =>
    unfold Observer.disconnect
    split
    · exact nofun
    · exact List.forall_mem_singleton.mpr rfl

end Observer

/-- What is true of a timeline in the middle of a run and stays true with each small change. -/
structure Kept (P : Timeline Narrative → Prop) : Prop where
  enter {tl : Timeline Narrative} (d : Deed) (h : P tl) : P (tl.enter d)
  react {tl : Timeline Narrative} {o : ObserverId} {s : Observer} {next : Observer × Observer.Reaction}
    (h : P tl) (hs : tl.observer? o = some s) (hnext : s.Responds next) : P (tl.react .scribe o next)
  take {tl : Timeline Narrative} {o : ObserverId} {s : Observer} (sorted : Bool) (h : P tl)
    (hs : tl.observer? o = some s) : P (tl.setObserver o (s.take sorted).1)
  /-- A connected observer is registered by observing. -/
  enroll {tl : Timeline Narrative} {o : ObserverId} (h : P tl) (hopen : tl.isOpen = true)
    (hconnected : tl.isConnected o = true) : P (tl.register o)
  register {tl : Timeline Narrative} {o : ObserverId} {before : Timeline Unit} (h : P tl)
    (hbegun : tl.host.getLast? = some (.begun (.operate (.register o)) before)) : P (tl.register o)
  unregister {tl : Timeline Narrative} (o : ObserverId) (h : P tl) : P (tl.unregister o)
  prune {tl : Timeline Narrative} (h : P tl) : P tl.prune
  retain {tl : Timeline Narrative} (h : P tl) (hopen : tl.isOpen = true) : P tl.retain
  release {tl : Timeline Narrative} (h : P tl) : P tl.release
  owners {tl : Timeline Narrative} (o : ObserverId) (f : Nat → Nat) (h : P tl) :
    P { tl with slots := tl.slots.modify o fun s => { s with owners := f s.owners } }
  create {tl : Timeline Narrative} (limit : Nat) (route : Route) (h : P tl) : P (tl.create limit route).1
  tell {hooks : Hooks Narrative} {tl : Timeline Narrative} (d : Deed) (h : P tl)
    (hdone : P ((tl.note (.begun d tl.bare)).act hooks d).1) : P (tl.tell hooks d)

/-- What is true of the recorder and of what was told so far does not depend on the observers, so only three
small changes matter to it. -/
theorem Kept.of_recorder_and_host {P : Timeline Narrative → Prop}
    (same : ∀ {tl tl' : Timeline Narrative}, P tl → tl'.recorder = tl.recorder → tl'.host = tl.host → P tl')
    (enter : ∀ {tl : Timeline Narrative} (d : Deed), P tl → P (tl.enter d))
    (react : ∀ {tl : Timeline Narrative} {o : ObserverId} {s : Observer} {next : Observer × Observer.Reaction},
      P tl → tl.observer? o = some s → s.Responds next → P (tl.react .scribe o next))
    (ended : ∀ {tl : Timeline Narrative} (d : Deed) (before : Timeline Unit) (a : Answer)
      (after : Timeline Unit), P tl → P (tl.note (.ended d before a after))) : Kept P where
  enter := enter
  react := react
  take _ h _ := same h rfl rfl
  enroll h _ _ := same h rfl rfl
  register h _ := same h rfl rfl
  unregister _ h := same h rfl rfl
  prune h := same h rfl rfl
  retain h _ := same h rfl rfl
  release h := same h rfl rfl
  owners _ _ h := same h rfl rfl
  create _ _ h := same h rfl rfl
  tell d _ hdone := ended d _ _ _ hdone

/-- A host that tells, and whose callbacks keep what is true. -/
structure Hooks.Tells (P : Timeline Narrative → Prop) (hooks : Hooks Narrative) : Prop where
  trace : hooks.trace = Hooks.scribe.trace
  schedule : hooks.schedule = Hooks.scribe.schedule
  call (o : ObserverId) (tl : Timeline Narrative) (h : P (Hooks.scribe.call o tl)) : P (hooks.call o tl)

namespace Timeline

variable {hooks : Hooks Narrative} {P : Timeline Narrative → Prop} {tl : Timeline Narrative}

theorem emit_of_trace (h : hooks.trace = Hooks.scribe.trace) (events : List TraceEvent)
    (tl : Timeline Narrative) : tl.emit hooks events = tl.emit .scribe events := by
  unfold emit
  rw [h]

theorem record_of_trace (h : hooks.trace = Hooks.scribe.trace) (next : Recorder × List TraceEvent)
    (tl : Timeline Narrative) : tl.record hooks next = tl.record .scribe next :=
  emit_of_trace h next.2 _

/-! ### Small changes in detail -/

theorem foldl_trace (events : List TraceEvent) (host : Narrative) :
    events.foldl (fun host e => Hooks.scribe.trace e host) host =
      host ++ (events.map .traced).map .incident := by
  induction events generalizing host with
  | nil => exact (List.append_nil host).symm
  | cons e events ih =>
    rw [List.foldl_cons, ih, List.map_cons, List.map_cons]
    exact List.append_assoc host [.incident (.traced e)] _

/-- What is told of a reaction before any callback gets to act. -/
def response (tl : Timeline Narrative) (o : ObserverId) (reaction : Observer.Reaction) : List Incident :=
  reaction.events.map .traced ++
    if reaction.wakes then .traced .dispatchRequested :: tl.request o else []

theorem record_scribe (next : Recorder × List TraceEvent) (tl : Timeline Narrative) :
    tl.record .scribe next =
      { tl with recorder := next.1, host := tl.host ++ (next.2.map .traced).map .incident } := by
  unfold record emit
  rw [foldl_trace]

theorem dispatch_scribe (tl : Timeline Narrative) (o : ObserverId) :
    tl.dispatch .scribe o = { tl with
      host := tl.host ++ (.traced .dispatchRequested :: tl.request o).map .incident } := by
  have hemit : tl.emit .scribe [.dispatchRequested] =
      { tl with host := tl.host ++ [.incident (.traced .dispatchRequested)] } := rfl
  unfold dispatch request route?
  dsimp only
  rw [hemit]
  dsimp only
  cases hs : tl.slots[o]? with
  | none => simp
  | some slot => cases hr : slot.route <;> simp [hr, Hooks.scribe, Route.request]

theorem react_scribe (tl : Timeline Narrative) (o : ObserverId) (next : Observer × Observer.Reaction) :
    tl.react .scribe o next = { tl.setObserver o next.1 with
      host := tl.host ++ (tl.response o next.2).map .incident } := by
  have hemit : (tl.setObserver o next.1).emit .scribe next.2.events = { tl.setObserver o next.1 with
      host := tl.host ++ (next.2.events.map .traced).map .incident } := by
    unfold emit
    rw [foldl_trace]
    rfl
  have hrequest : (tl.setObserver o next.1).request o = tl.request o := by
    unfold request
    rw [route?_setObserver]
  unfold react response
  dsimp only
  rw [hemit]
  cases next.2.wakes with
  | false => simp
  | true =>
    rw [if_pos rfl, if_pos rfl, dispatch_scribe, ← hrequest, List.map_append, ← List.append_assoc]
    rfl

theorem requested_traced (events : List TraceEvent) :
    Narrative.requested ((events.map .traced).map .incident) = [] := by
  induction events with
  | nil => rfl
  | cons e events ih => exact ih

/-- A reaction that wakes an observer up requests it, once. -/
theorem requested_response {tl : Timeline Narrative} {o : ObserverId} {s : Observer}
    (hs : tl.observer? o = some s) (reaction : Observer.Reaction) :
    Narrative.requested ((tl.response o reaction).map .incident) = if reaction.wakes then [o] else [] := by
  obtain ⟨slot, hslot, -⟩ := Option.map_eq_some_iff.mp hs
  have hrequest : tl.request o = [slot.route.request o] := by simp [request, route?, hslot]
  have hroute : Moment.requested? (.incident (slot.route.request o)) = some o := by
    cases slot.route <;> rfl
  have hevents := requested_traced reaction.events
  unfold Narrative.requested at hevents ⊢
  unfold response
  rw [List.map_append, List.filterMap_append, hevents, List.nil_append, hrequest]
  split
  · show List.filterMap _ [_, _] = _
    rw [List.filterMap_cons_none rfl, List.filterMap_cons_some hroute, List.filterMap_nil]
  · rfl

end Timeline

/-! ### Steps -/

/-- The observer that is subscribed or disconnected. -/
def Operation.addressee? : Operation → Option ObserverId
  | observeOne o _ _ => some o
  | observeMany o _ => some o
  | disconnect o => some o
  | _ => none

/-- The recorder has no part in subscriptions and disconnections. -/
theorem Operation.onRecorder_of_addressee {o : ObserverId} (op : Operation) (hop : op.addressee? = some o)
    (r : Recorder) : op.onRecorder r = r := by
  cases op with
  | observeOne | observeMany | disconnect => rfl
  | _ => cases hop

/-- What an observer makes of an operation that addresses it, with the stored entries in its reach. -/
def Observer.obey (s : Observer) (reachable : EntryType → Option (List Entry)) :
    Operation → Observer × Observer.Reaction
  | .observeOne _ t options => s.observeOne t options (reachable t)
  | .observeMany _ types => s.observeMany types
  | .disconnect _ => s.disconnect
  | _ => (s, {})

theorem Observer.responds_obey (s : Observer) (reachable : EntryType → Option (List Entry)) {o : ObserverId}
    {op : Operation} (hop : op.addressee? = some o) : s.Responds (s.obey reachable op) := by
  cases op with
  | observeOne p t options => exact .observeOne t options (reachable t)
  | observeMany p types => exact .observeMany types
  | disconnect p => exact .disconnect
  | _ => cases hop

namespace Timeline

/-- Whether a deed subscribes or disconnects `o` and anything comes of it. -/
def heeds (tl : Timeline ε) (o : ObserverId) : Deed → Bool
  | .operate op => op.addressee? == some o && (tl.isLive o && tl.isConnected o)
  | .offer .. => false

/-- The registry and the owners are seen to before the observer itself. -/
def prepare (o : ObserverId) (tl : Timeline ε) : Operation → Timeline ε
  | .observeOne .. => if tl.isOpen then (tl.enroll o).retain else tl
  | .observeMany .. => tl.enroll o
  | .disconnect _ => if tl.isOpen then tl.unregister o else tl
  | _ => tl

/-- What comes of a subscription or a disconnection that `o` heeds in state `s`. -/
def heed (hooks : Hooks ε) (o : ObserverId) (s : Observer) (tl : Timeline ε) (op : Operation) : Timeline ε :=
  (tl.prepare o op).react hooks o (s.obey tl.reachable op)

variable {tl : Timeline ε} {o : ObserverId} {s : Observer} {op : Operation}

theorem prepare_eq (tl : Timeline ε) (o : ObserverId) (op : Operation) : ∃ owners registry,
    tl.prepare o op = { tl with owners, registry } := by
  have henroll : ∃ owners registry, tl.enroll o = { tl with owners, registry } := by
    unfold enroll
    split
    · exact ⟨_, _, rfl⟩
    · exact ⟨_, _, rfl⟩
  cases op with
  | observeOne p t options =>
    simp only [prepare]
    split
    · obtain ⟨owners, registry, heq⟩ := henroll
      rw [heq]
      exact ⟨owners + 1, registry, rfl⟩
    · exact ⟨_, _, rfl⟩
  | observeMany p types => exact henroll
  | disconnect p =>
    simp only [prepare]
    split
    · exact ⟨_, _, rfl⟩
    · exact ⟨_, _, rfl⟩
  | _ => exact ⟨_, _, rfl⟩

theorem addressee_of_heeds (h : tl.heeds o (.operate op) = true) : op.addressee? = some o := by
  simp only [heeds, Bool.and_eq_true, beq_iff_eq] at h
  exact h.1

theorem isLive_of_heeds (h : tl.heeds o (.operate op) = true) : tl.isLive o = true := by
  simp only [heeds, Bool.and_eq_true] at h
  exact h.2.1

theorem isConnected_of_heeds (h : tl.heeds o (.operate op) = true) : tl.isConnected o = true := by
  simp only [heeds, Bool.and_eq_true] at h
  exact h.2.2

theorem isDisconnected_of_heeds (hs : tl.observer? o = some s) (h : tl.heeds o (.operate op) = true) :
    s.isDisconnected = false := by
  have hconnected := isConnected_of_heeds h
  simpa [isConnected, hs] using hconnected

theorem heeds_of_addressee (hop : op.addressee? = some o) :
    tl.heeds o (.operate op) = (tl.isLive o && tl.isConnected o) := by
  simp [heeds, hop]

theorem not_heeds (hop : op.addressee? ≠ some o) : tl.heeds o (.operate op) = false := by
  simp [heeds, hop]

theorem heed_scribe (tl : Timeline Narrative) (o : ObserverId) (s : Observer) (op : Operation) :
    ∃ owners registry incidents, tl.heed .scribe o s op =
      { tl.setObserver o (s.obey tl.reachable op).1 with
        owners, registry, host := tl.host ++ List.map Moment.incident incidents } := by
  obtain ⟨owners, registry, heq⟩ := tl.prepare_eq o op
  refine ⟨owners, registry, (tl.prepare o op).response o (s.obey tl.reachable op).2, ?_⟩
  rw [heed, react_scribe, heq]
  rfl

theorem perform_of_heeds (hooks : Hooks ε) (hs : tl.observer? o = some s)
    (h : tl.heeds o (.operate op) = true) :
    (tl.perform hooks op).1 = tl.heed hooks o s op ∨
      (tl.perform hooks op).1 = (tl.heed hooks o s op).release := by
  have hop := addressee_of_heeds h
  have hlive := isLive_of_heeds h
  have hconnected := isDisconnected_of_heeds hs h
  cases op with
  | observeOne p t options =>
    obtain rfl := Option.some.inj hop
    simp only [perform, onLive, hlive, ite_true, observeOne, hs, hconnected, Bool.false_eq_true, ite_false,
      heed, prepare, Observer.obey, reachable]
    split
    · exact .inr rfl
    · exact .inl rfl
  | observeMany p types =>
    obtain rfl := Option.some.inj hop
    left
    simp [perform, onLive, hlive, observeMany, hs, hconnected, heed, prepare, Observer.obey]
  | disconnect p =>
    obtain rfl := Option.some.inj hop
    left
    simp [perform, onLive, hlive, disconnect, hs, hconnected, heed, prepare, Observer.obey]
  | _ => cases hop

/-- What only a connected observer does is not done. -/
theorem eq_of_not_isConnected {next : Observer → Timeline ε} (h : tl.isConnected o = false) :
    (match tl.observer? o with
      | none => tl
      | some s => if s.isDisconnected then tl else next s) = tl := by
  split
  · rfl
  · rename_i s hs
    rw [if_pos (by simpa [isConnected, hs] using h)]

theorem perform_of_not_heeds (hooks : Hooks ε) (hop : op.addressee? = some o)
    (h : tl.heeds o (.operate op) = false) : (tl.perform hooks op).1 = tl := by
  rw [heeds_of_addressee hop] at h
  have onLive_eq {act : Timeline ε → Timeline ε} (hact : tl.isConnected o = false → act tl = tl) :
      (tl.onLive o fun tl => (act tl, .done)).1 = tl := by
    unfold onLive
    split
    · rename_i hlive
      rw [hlive] at h
      exact hact h
    · rfl
  cases op with
  | observeOne p t options =>
    obtain rfl := Option.some.inj hop
    exact onLive_eq eq_of_not_isConnected
  | observeMany p types =>
    obtain rfl := Option.some.inj hop
    exact onLive_eq eq_of_not_isConnected
  | disconnect p =>
    obtain rfl := Option.some.inj hop
    exact onLive_eq eq_of_not_isConnected
  | _ => cases hop

end Timeline

theorem Timeline.enter_of_addressee {tl : Timeline Narrative} {o : ObserverId} {op : Operation}
    (hop : op.addressee? = some o) :
    tl.enter (.operate op) = tl.note (.begun (.operate op) tl.bare) := by
  cases op with
  | observeOne | observeMany | disconnect => rfl
  | _ => cases hop

/-- What is true of a timeline in the middle of a run and stays true with each step: to the beginning of a deed
belongs what the observer does that heeds it, up to its callback. -/
structure Upheld (P : Timeline Narrative → Prop) : Prop where
  enter {tl : Timeline Narrative} (d : Deed) (h : P tl) (hd : ∀ o, tl.heeds o d = false) : P (tl.enter d)
  heed {tl : Timeline Narrative} {o : ObserverId} {s : Observer} {op : Operation} (h : P tl)
    (hs : tl.observer? o = some s) (hheeds : tl.heeds o (.operate op) = true) :
    P ((tl.enter (.operate op)).heed .scribe o s op)
  push {tl : Timeline Narrative} {o : ObserverId} {s : Observer} (e : Entry) (h : P tl)
    (hs : tl.observer? o = some s) : P (tl.react .scribe o (s.push e))
  take {tl : Timeline Narrative} {o : ObserverId} {s : Observer} (sorted : Bool) (h : P tl)
    (hs : tl.observer? o = some s) : P (tl.setObserver o (s.take sorted).1)
  register {tl : Timeline Narrative} {o : ObserverId} {before : Timeline Unit} (h : P tl)
    (hbegun : tl.host.getLast? = some (.begun (.operate (.register o)) before)) : P (tl.register o)
  unregister {tl : Timeline Narrative} (o : ObserverId) (h : P tl) : P (tl.unregister o)
  prune {tl : Timeline Narrative} (h : P tl) : P tl.prune
  release {tl : Timeline Narrative} (h : P tl) : P tl.release
  owners {tl : Timeline Narrative} (o : ObserverId) (f : Nat → Nat) (h : P tl) :
    P { tl with slots := tl.slots.modify o fun s => { s with owners := f s.owners } }
  create {tl : Timeline Narrative} (limit : Nat) (route : Route) (h : P tl) : P (tl.create limit route).1
  tell {hooks : Hooks Narrative} {tl : Timeline Narrative} (d : Deed) (h : P tl)
    (hdone : P ((tl.note (.begun d tl.bare)).act hooks d).1) : P (tl.tell hooks d)

/-- A step is made up of small changes. -/
theorem Kept.upheld {P : Timeline Narrative → Prop} (hk : Kept P) : Upheld P where
  enter d h _ := hk.enter d h
  heed {tl o s op} h hs hheeds := by
    have hentered := hk.enter (.operate op) h
    have hconnected := Timeline.isConnected_of_heeds hheeds
    have hprepared : P ((tl.enter (.operate op)).prepare o op) := by
      cases op with
      | observeOne p t options =>
        simp only [Timeline.prepare, Timeline.enroll]
        split
        · exact hk.retain (hk.enroll hentered ‹_› hconnected) ‹_›
        · exact hentered
      | observeMany p types =>
        simp only [Timeline.prepare, Timeline.enroll]
        split
        · exact hk.enroll hentered ‹_› hconnected
        · exact hentered
      | disconnect p =>
        simp only [Timeline.prepare]
        split
        · exact hk.unregister o hentered
        · exact hentered
      | _ => exact hentered
    have hs' : ((tl.enter (.operate op)).prepare o op).observer? o = some s := by
      obtain ⟨owners, registry, heq⟩ := (tl.enter (.operate op)).prepare_eq o op
      rw [heq]
      exact hs
    exact hk.react hprepared hs' (s.responds_obey _ (Timeline.addressee_of_heeds hheeds))
  push e h hs := hk.react h hs (.push e)
  take sorted h hs := hk.take sorted h hs
  register h hbegun := hk.register h hbegun
  unregister o h := hk.unregister o h
  prune h := hk.prune h
  release h := hk.release h
  owners o f h := hk.owners o f h
  create limit route h := hk.create limit route h
  tell d h hdone := hk.tell d h hdone

namespace Hooks.Tells

variable {hooks : Hooks Narrative} {P : Timeline Narrative → Prop} {tl : Timeline Narrative}

theorem dispatch (ht : hooks.Tells P) (o : ObserverId) (h : P (tl.dispatch .scribe o)) :
    P (tl.dispatch hooks o) := by
  unfold Timeline.dispatch at h ⊢
  rw [Timeline.emit_of_trace ht.trace, ht.schedule]
  dsimp only at h ⊢
  split
  · rename_i hs
    rwa [hs] at h
  · rename_i slot hs
    rw [hs] at h
    dsimp only at h ⊢
    cases hr : slot.route with
    | direct =>
      rw [hr] at h
      exact ht.call o _ h
    | scheduled => rwa [hr] at h

theorem react (ht : hooks.Tells P) {o : ObserverId} {next : Observer × Observer.Reaction}
    (h : P (tl.react .scribe o next)) : P (tl.react hooks o next) := by
  unfold Timeline.react at h ⊢
  rw [Timeline.emit_of_trace ht.trace]
  dsimp only at h ⊢
  cases hw : next.2.wakes with
  | true =>
    rw [hw] at h
    exact ht.dispatch o h
  | false =>
    rw [hw] at h
    exact h

end Hooks.Tells

namespace Upheld

variable {hooks : Hooks Narrative} {P : Timeline Narrative → Prop} {tl : Timeline Narrative}

theorem push_of_tells (hu : Upheld P) (ht : hooks.Tells P) (o : ObserverId) (e : Entry) (h : P tl) :
    P (tl.push hooks o e).1 := by
  unfold Timeline.push
  split
  · exact h
  · rename_i s hs
    exact ht.react (hu.push e h hs)

theorem deliver (hu : Upheld P) (ht : hooks.Tells P) (e : Entry) (os : List ObserverId) (h : P tl) :
    P (tl.deliver hooks e os) := by
  have retained (os : List ObserverId) {t : Timeline Narrative} (h : P t) :
      P (os.foldl Timeline.retainObserver t) := by
    induction os generalizing t with
    | nil => exact h
    | cons o os ih => exact ih (hu.owners o (· + 1) h)
  have offered (os : List ObserverId) {t : Timeline Narrative} (h : P t) :
      P (os.foldl (Timeline.offer hooks e) t) := by
    induction os generalizing t with
    | nil => exact h
    | cons o os ih => exact ih (hu.owners o (· - 1) (hu.push_of_tells ht o e h))
  exact offered os (retained os h)

theorem fanOut (hu : Upheld P) (ht : hooks.Tells P) (e : Entry) (h : P tl) : P (tl.fanOut hooks e) :=
  hu.deliver ht e _ (hu.prune h)

theorem onLive {act : Timeline Narrative → Timeline Narrative × Answer} (o : ObserverId) (h : P tl)
    (hact : P (act tl).1) : P (tl.onLive o act).1 := by
  unfold Timeline.onLive
  split
  · exact hact
  · exact h

/-- A subscription or a disconnection is either heeded or passes by. -/
theorem addressed (hu : Upheld P) (ht : hooks.Tells P) {o : ObserverId} {op : Operation}
    (hop : op.addressee? = some o) (h : P tl) :
    P ((tl.note (.begun (.operate op) tl.bare)).perform hooks op).1 := by
  rw [← Timeline.enter_of_addressee hop]
  cases hheeds : tl.heeds o (.operate op) with
  | false =>
    have hpassed : ((tl.enter (.operate op)).perform hooks op).1 = tl.enter (.operate op) :=
      Timeline.perform_of_not_heeds hooks hop hheeds
    rw [hpassed]
    refine hu.enter (.operate op) h fun p => ?_
    by_cases hp : op.addressee? = some p
    · obtain rfl := Option.some.inj (hop.symm.trans hp)
      exact hheeds
    · exact Timeline.not_heeds hp
  | true =>
    obtain ⟨s, hs, -⟩ := Timeline.exists_of_isConnected (Timeline.isConnected_of_heeds hheeds)
    have hs' : (tl.enter (.operate op)).observer? o = some s := hs
    have hheeded := ht.react (hu.heed h hs hheeds)
    rcases Timeline.perform_of_heeds hooks hs' hheeds with heq | heq
    · rw [heq]
      exact hheeded
    · rw [heq]
      exact hu.release hheeded

/-- The other operations, from where they have acted on the recorder to where they are done. -/
theorem perform (hu : Upheld P) (ht : hooks.Tells P) {op : Operation} (hop : op.addressee? = none)
    (h : P (tl.enter (.operate op))) : P ((tl.note (.begun (.operate op) tl.bare)).perform hooks op).1 := by
  have recorded (next : Recorder × List TraceEvent) :
      (tl.note (.begun (.operate op) tl.bare)).record hooks next =
        (tl.note (.begun (.operate op) tl.bare)).record .scribe next :=
    Timeline.record_of_trace ht.trace next _
  cases op with
  | report e =>
    have hstored : P ((tl.note (.begun (.operate (.report e)) tl.bare)).store hooks e).1 := by
      show P (Timeline.record hooks _ _)
      rw [recorded]
      exact h
    exact hu.fanOut ht _ hstored
  | reportEvent name start duration timing =>
    let counted := { tl.note (.begun (.operate (.reportEvent name start duration timing)) tl.bare) with
      recorder := tl.recorder.countEvent name }
    have hstored : P (counted.store hooks (.event name start duration timing)).1 := by
      show P (Timeline.record hooks _ counted)
      rw [Timeline.record_of_trace ht.trace]
      exact h
    exact hu.fanOut ht _ hstored
  | clear t name =>
    show P (Timeline.record hooks _ _)
    rw [recorded]
    exact h
  | clearAll =>
    show P (Timeline.record hooks _ _)
    rw [recorded]
    exact h
  | resetDropped => exact h
  | clearCounts => exact h
  | create limit route => exact hu.create limit route h
  | clone o => exact onLive o h (hu.owners o (· + 1) h)
  | drop o => exact hu.owners o (· - 1) h
  | take o sorted =>
    refine onLive o h ?_
    dsimp only
    unfold Timeline.take
    split
    · exact h
    · exact hu.take sorted h ‹_›
  | push o e => exact onLive o h (hu.push_of_tells ht o e h)
  | register o => exact onLive o h (hu.register h List.getLast?_concat)
  | unregister o => exact onLive o h (hu.unregister o h)
  | fanOut e => exact hu.fanOut ht e h
  | close => exact hu.release h
  | observeOne | observeMany | disconnect => cases hop

theorem act (hu : Upheld P) (ht : hooks.Tells P) (d : Deed) (h : P tl) :
    P ((tl.note (.begun d tl.bare)).act hooks d).1 := by
  cases d with
  | offer os e => exact hu.deliver ht e _ (hu.enter (.offer os e) h fun _ => rfl)
  | operate op =>
    cases hop : op.addressee? with
    | some o => exact hu.addressed ht hop h
    | none =>
      refine hu.perform ht hop (hu.enter (.operate op) h fun o => Timeline.not_heeds ?_)
      rw [hop]
      exact nofun

theorem narrate_of_tells (hu : Upheld P) (ht : hooks.Tells P) (ds : List Deed) (h : P tl) :
    P (tl.narrate hooks ds) := by
  induction ds generalizing tl with
  | nil => exact h
  | cons d ds ih => exact ih (hu.tell d h (hu.act ht d h))

theorem tells (hu : Upheld P) (plan : Plan) (depth : Nat) :
    (Hooks.narrated plan depth).Tells P := by
  induction depth with
  | zero => exact ⟨rfl, rfl, fun _ _ h => h⟩
  | succ depth ih => exact ⟨rfl, rfl, fun o tl h => hu.narrate_of_tells ih _ h⟩

end Upheld

/-! ### At every moment -/

/-- `P` holds wherever a deed begins or ends, of the timeline as it stands there and what was told by then. -/
def Narrative.Throughout (P : Timeline Narrative → Prop) (n : Narrative) : Prop :=
  ∀ past m rest view, n = past ++ m :: rest → m.view? = some view → P { view with host := past }

namespace Narrative

variable {n ms past rest : Narrative} {m : Moment}

/-- A moment of a narrative that goes on was there before or is among those that are added. -/
theorem split_append (h : n ++ ms = past ++ m :: rest) :
    (∃ rest', n = past ++ m :: rest' ∧ rest = rest' ++ ms) ∨
      ∃ before, past = n ++ before ∧ ms = before ++ m :: rest := by
  rcases List.append_eq_append_iff.mp h with ⟨before, hpast, hms⟩ | ⟨more, hn, hrest⟩
  · exact .inr ⟨before, hpast, hms⟩
  · cases more with
    | nil => exact .inr ⟨[], by rw [hn, List.append_nil, List.append_nil], hrest.symm⟩
    | cons m' rest' =>
      obtain ⟨rfl, htail⟩ := List.cons.inj hrest
      exact .inl ⟨rest', hn, htail⟩

theorem split_concat {x : Moment} (h : n ++ [x] = past ++ m :: rest) :
    (∃ rest', n = past ++ m :: rest' ∧ rest = rest' ++ [x]) ∨ past = n ∧ m = x ∧ rest = [] := by
  refine (split_append h).imp_right ?_
  rintro ⟨before, hpast, hx⟩
  obtain ⟨rfl, hm⟩ := List.append_eq_singleton_iff.mp hx.symm |>.resolve_right nofun
  obtain ⟨rfl, rfl⟩ := List.cons.inj hm
  exact ⟨hpast.trans (List.append_nil n), rfl, rfl⟩

/-- Incidents that are told at last leave the moments before where they were. -/
theorem split_incidents {view : Timeline Unit} {incidents : List Incident}
    (hn : n ++ incidents.map .incident = past ++ m :: rest) (hview : m.view? = some view) :
    ∃ rest', n = past ++ m :: rest' ∧ rest = rest' ++ incidents.map .incident := by
  refine (split_append hn).resolve_right ?_
  rintro ⟨before, -, hincidents⟩
  have hm : m ∈ incidents.map Moment.incident := hincidents ▸ List.mem_append_right _ List.mem_cons_self
  obtain ⟨i, -, rfl⟩ := List.mem_map.mp hm
  exact Option.some_ne_none view hview.symm

end Narrative

namespace Narrative.Throughout

variable {P : Timeline Narrative → Prop} {n : Narrative}

theorem nil : Throughout P [] := fun _ _ _ _ hn => absurd hn.symm (List.append_ne_nil_of_right_ne_nil _ nofun)

theorem concat (h : n.Throughout P) {m : Moment}
    (hm : ∀ view, m.view? = some view → P { view with host := n }) : Throughout P (n ++ [m]) := by
  intro past m' rest view hn hview
  rcases split_concat hn with ⟨rest', hn, -⟩ | ⟨rfl, rfl, -⟩
  · exact h past m' rest' view hn hview
  · exact hm view hview

theorem begun {tl : Timeline Narrative} (h : tl.host.Throughout P) (hp : P tl) (d : Deed) :
    Throughout P (tl.host ++ [.begun d tl.bare]) := by
  refine h.concat fun view hview => ?_
  rw [← Option.some.inj hview]
  exact hp

theorem append_incidents (h : n.Throughout P) (incidents : List Incident) :
    Throughout P (n ++ incidents.map .incident) := by
  intro past m rest view hn hview
  obtain ⟨rest', hn', -⟩ := split_incidents hn hview
  exact h past m rest' view hn' hview

end Narrative.Throughout

namespace Upheld

variable {P : Timeline Narrative → Prop} {tl : Timeline Narrative}

theorem throughout (hu : Upheld P) : Upheld fun tl => P tl ∧ tl.host.Throughout P where
  enter {tl} d h hd := by
    refine ⟨hu.enter d h.1 hd, ?_⟩
    unfold Timeline.enter
    rw [Timeline.record_scribe]
    exact (h.2.begun h.1 d).append_incidents _
  heed {tl o s op} h hs hheeds := by
    refine ⟨hu.heed h.1 hs hheeds, ?_⟩
    obtain ⟨owners, registry, incidents, heq⟩ := (tl.enter (.operate op)).heed_scribe o s op
    rw [heq, Timeline.enter_of_addressee (Timeline.addressee_of_heeds hheeds)]
    exact (h.2.begun h.1 _).append_incidents _
  push {tl o s} e h hs := by
    refine ⟨hu.push e h.1 hs, ?_⟩
    rw [Timeline.react_scribe]
    exact h.2.append_incidents _
  take sorted h hs := ⟨hu.take sorted h.1 hs, h.2⟩
  register h hbegun := ⟨hu.register h.1 hbegun, h.2⟩
  unregister o h := ⟨hu.unregister o h.1, h.2⟩
  prune h := ⟨hu.prune h.1, h.2⟩
  release h := ⟨hu.release h.1, h.2⟩
  owners o f h := ⟨hu.owners o f h.1, h.2⟩
  create limit route h := ⟨hu.create limit route h.1, h.2⟩
  tell {hooks tl} d h hdone := by
    refine ⟨hu.tell d h.1 hdone.1, hdone.2.concat fun view hview => ?_⟩
    rw [← Option.some.inj hview]
    exact hdone.1

/-- What every step keeps holds at every moment of a run, and in the end. -/
theorem narrate (hu : Upheld P) (plan : Plan) (depth : Nat)
    (ds : List Deed) (capacities : Capacities) (h : P (.new capacities [])) :
    let tl := (Timeline.new capacities []).narrate (.narrated plan depth) ds
    P tl ∧ tl.host.Throughout P :=
  hu.throughout.narrate_of_tells (hu.throughout.tells plan depth) ds ⟨h, .nil⟩

end Upheld

/-- What every small change keeps holds at every moment of a run, and in the end. -/
theorem Kept.narrate {P : Timeline Narrative → Prop} (hk : Kept P) (plan : Plan) (depth : Nat)
    (ds : List Deed) (capacities : Capacities) (h : P (.new capacities [])) :
    let tl := (Timeline.new capacities []).narrate (.narrated plan depth) ds
    P tl ∧ tl.host.Throughout P :=
  hk.upheld.narrate plan depth ds capacities h

end PerfTimeline
