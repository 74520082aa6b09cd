import PerfTimeline.Observer.Basic
import PerfTimeline.Observer.Registry
import PerfTimeline.Retention.Recorder
import PerfTimeline.Task.Priority

/-!
# The timeline

A timeline is a recorder, the registry of the observers that are offered its entries, and all observers ever
made, numbered in order of creation. It lives inside a host, which keeps a state of its own: the host sees
the trace events, receives scheduled tasks and runs callbacks. A callback may use the timeline again in the
middle of an operation, so `Hooks.call` acts on the timeline as a whole.

Observers live as long as somebody owns them: handles, and calls in progress. The registry does not own
them. Likewise the observers do not own the recorder: they reach it only while it has an owner.
-/

namespace PerfTimeline

/-- How an observer's request to be dispatched is answered. -/
inductive Route where
  /-- Its callback is called at once. -/
  | direct
  /-- Its callback becomes a task of idle priority. -/
  | scheduled
deriving DecidableEq

/-- An observer with what the timeline knows about it. -/
structure Slot where
  observer : Observer
  route : Route
  /-- How many handles and calls in progress own the observer. -/
  owners : Nat
deriving DecidableEq

/-- A timeline inside a host with state of type `ε`. -/
structure Timeline (ε : Type) where
  recorder : Recorder
  /-- How many own the recorder. -/
  owners : Nat := 1
  registry : Registry := []
  /-- All observers, by number. -/
  slots : List Slot := []
  host : ε

/-- What a host does when the timeline turns to it. -/
structure Hooks (ε : Type) where
  /-- Take note of a trace event. -/
  trace : TraceEvent → ε → ε
  /-- Queue the callback of an observer as a task; the task must not run yet. -/
  schedule : Priority → ObserverId → ε → ε
  /-- Run the callback of an observer. -/
  call : ObserverId → Timeline ε → Timeline ε

namespace Timeline

variable {ε : Type}

/-! ### Owners -/

/-- Whether the observers can reach the recorder. -/
def isOpen (tl : Timeline ε) : Bool := tl.owners != 0

/-- Own the recorder. -/
def retain (tl : Timeline ε) : Timeline ε := { tl with owners := tl.owners + 1 }

/-- Give the recorder up. -/
def release (tl : Timeline ε) : Timeline ε := { tl with owners := tl.owners - 1 }

/-- An observer by number. -/
def observer? (tl : Timeline ε) (o : ObserverId) : Option Observer := tl.slots[o]?.map (·.observer)

/-- Whether an observer is alive: somebody owns it. -/
def isLive (tl : Timeline ε) (o : ObserverId) : Bool := tl.slots[o]?.any (·.owners != 0)

/-- Own an observer. -/
def retainObserver (tl : Timeline ε) (o : ObserverId) : Timeline ε :=
  { tl with slots := tl.slots.modify o fun s => { s with owners := s.owners + 1 } }

/-- Give an observer up. -/
def releaseObserver (tl : Timeline ε) (o : ObserverId) : Timeline ε :=
  { tl with slots := tl.slots.modify o fun s => { s with owners := s.owners - 1 } }

/-- Make an observer, owned once. It observes nothing and is in no registry yet. -/
def create (tl : Timeline ε) (limit : Nat) (route : Route) : Timeline ε × ObserverId :=
  ({ tl with slots := tl.slots ++ [⟨{ limit }, route, 1⟩] }, tl.slots.length)

/-- Replace the state of an observer. -/
def setObserver (tl : Timeline ε) (o : ObserverId) (state : Observer) : Timeline ε :=
  { tl with slots := tl.slots.modify o fun s => { s with observer := state } }

@[simp] theorem length_slots_setObserver (tl : Timeline ε) (o : ObserverId) (state : Observer) :
    (tl.setObserver o state).slots.length = tl.slots.length := by
  simp [setObserver]

theorem observer?_setObserver_self (tl : Timeline ε) {o : ObserverId} (h : o < tl.slots.length)
    (state : Observer) : (tl.setObserver o state).observer? o = some state := by
  simp [setObserver, observer?, h]

theorem observer?_setObserver_of_ne (tl : Timeline ε) {o p : ObserverId} (h : p ≠ o) (state : Observer) :
    (tl.setObserver o state).observer? p = tl.observer? p := by
  simp [setObserver, observer?, Ne.symm h]

/-- A new observer observes nothing. -/
theorem observer?_create (tl : Timeline ε) (limit : Nat) (route : Route) :
    (tl.create limit route).1.observer? (tl.create limit route).2 = some { limit } := by
  simp [create, observer?]

@[simp] theorem observer?_retainObserver (tl : Timeline ε) (o p : ObserverId) :
    (tl.retainObserver o).observer? p = tl.observer? p := by
  simp only [retainObserver, observer?, List.getElem?_modify]
  cases tl.slots[p]? <;> by_cases h : o = p <;> simp [h]

@[simp] theorem observer?_releaseObserver (tl : Timeline ε) (o p : ObserverId) :
    (tl.releaseObserver o).observer? p = tl.observer? p := by
  simp only [releaseObserver, observer?, List.getElem?_modify]
  cases tl.slots[p]? <;> by_cases h : o = p <;> simp [h]

/-! ### The host -/

/-- Tell the host about trace events. -/
def emit (hooks : Hooks ε) (events : List TraceEvent) (tl : Timeline ε) : Timeline ε :=
  { tl with host := events.foldl (fun h e => hooks.trace e h) tl.host }

@[simp] theorem recorder_emit (hooks : Hooks ε) (events : List TraceEvent) (tl : Timeline ε) :
    (tl.emit hooks events).recorder = tl.recorder := rfl

@[simp] theorem registry_emit (hooks : Hooks ε) (events : List TraceEvent) (tl : Timeline ε) :
    (tl.emit hooks events).registry = tl.registry := rfl

@[simp] theorem slots_emit (hooks : Hooks ε) (events : List TraceEvent) (tl : Timeline ε) :
    (tl.emit hooks events).slots = tl.slots := rfl

/-- Ask for an observer to be dispatched. -/
def dispatch (hooks : Hooks ε) (o : ObserverId) (tl : Timeline ε) : Timeline ε :=
  let tl := tl.emit hooks [.dispatchRequested]
  match tl.slots[o]? with
  | none => tl
  | some slot =>
    match slot.route with
    | .direct => hooks.call o tl
    | .scheduled => { tl with host := hooks.schedule .idle o tl.host }

/-- Carry out what an operation on an observer brings about: its new state, the trace, and the dispatch. -/
def react (hooks : Hooks ε) (o : ObserverId) (next : Observer × Observer.Reaction) (tl : Timeline ε) :
    Timeline ε :=
  let tl := (tl.setObserver o next.1).emit hooks next.2.events
  if next.2.wakes then tl.dispatch hooks o else tl

/-- Carry out a change of the recorder that leaves a trace. -/
def record (hooks : Hooks ε) (next : Recorder × List TraceEvent) (tl : Timeline ε) : Timeline ε :=
  { tl with recorder := next.1 }.emit hooks next.2

end Timeline

end PerfTimeline
