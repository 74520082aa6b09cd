import PerfTimeline.Observer.Request
import PerfTimeline.Timeline.Basic

/-!
# Subscription

Observing registers the observer and changes its filter; a buffered subscription also copies entries, which
may ask for a dispatch. Nothing of this happens to a disconnected observer. Once nobody owns the recorder
any more, only the filter changes.
-/

namespace PerfTimeline.Timeline

variable {ε : Type}

/-- Register an observer. -/
def register (o : ObserverId) (tl : Timeline ε) : Timeline ε :=
  { tl with registry := tl.registry.register tl.isLive o }

/-- Remove an observer from the registry. -/
def unregister (o : ObserverId) (tl : Timeline ε) : Timeline ε :=
  { tl with registry := tl.registry.unregister tl.isLive o }

/-- Register an observer if the recorder is in reach. -/
def enroll (o : ObserverId) (tl : Timeline ε) : Timeline ε := if tl.isOpen then tl.register o else tl

/-- Observe one entry type from now on. The recorder is owned until the dispatch is over. -/
def observeOne (hooks : Hooks ε) (o : ObserverId) (t : EntryType) (options : ObserveOptions)
    (tl : Timeline ε) : Timeline ε :=
  match tl.observer? o with
  | none => tl
  | some state =>
    if state.isDisconnected then tl
    else
      let stored := if tl.isOpen then some (tl.recorder.select t none) else none
      let next := state.observeOne t options stored
      if tl.isOpen then (((tl.enroll o).retain).react hooks o next).release
      else tl.react hooks o next

/-- Observe a set of entry types from now on. -/
def observeMany (hooks : Hooks ε) (o : ObserverId) (types : List EntryType) (tl : Timeline ε) :
    Timeline ε :=
  match tl.observer? o with
  | none => tl
  | some state =>
    if state.isDisconnected then tl
    else (tl.enroll o).react hooks o (state.observeMany types)

/-- Observe what a request asks for. -/
def observe (hooks : Hooks ε) (o : ObserverId) (request : ObserveRequest) (tl : Timeline ε) :
    Timeline ε :=
  match request.action with
  | .nothing => tl
  | .one t options => tl.observeOne hooks o t options
  | .many types => tl.observeMany hooks o types

/-- Take the records of an observer out of its queue. -/
def take (o : ObserverId) (sorted : Bool) (tl : Timeline ε) : Timeline ε × List Entry :=
  match tl.observer? o with
  | none => (tl, [])
  | some state =>
    let (state, records) := state.take sorted
    (tl.setObserver o state, records)

/-- Stop an observer for good. The first time, it also leaves the registry. -/
def disconnect (hooks : Hooks ε) (o : ObserverId) (tl : Timeline ε) : Timeline ε :=
  match tl.observer? o with
  | none => tl
  | some state =>
    if state.isDisconnected then tl
    else
      let left := if tl.isOpen then tl.unregister o else tl
      left.react hooks o state.disconnect

end PerfTimeline.Timeline
