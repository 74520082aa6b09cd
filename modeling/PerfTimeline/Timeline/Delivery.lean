import PerfTimeline.Timeline.Basic

/-!
# Reporting and delivery

An entry that is reported is stored first, then offered to the registered observers one after another. The
list of observers is fixed before the first of them is offered the entry, and each is kept alive until its
turn is over, whatever the callbacks of the others do in between. A report is the composition of its pieces
`store`, `prune` and `deliver`.
-/

namespace PerfTimeline.Timeline

variable {ε : Type}

/-! ### Delivery -/

/-- Offer an entry to an observer. The second part says whether it was queued. -/
def push (hooks : Hooks ε) (o : ObserverId) (e : Entry) (tl : Timeline ε) : Timeline ε × Bool :=
  match tl.observer? o with
  | none => (tl, false)
  | some state =>
    let next := state.push e
    (tl.react hooks o next, next.2.queued)

/-- Offer an entry to an observer whose turn it is, and give the observer up. -/
def offer (hooks : Hooks ε) (e : Entry) (tl : Timeline ε) (o : ObserverId) : Timeline ε :=
  (tl.push hooks o e).1.releaseObserver o

/-- Offer an entry to observers in turn. All of them are owned until their turn is over. -/
def deliver (hooks : Hooks ε) (e : Entry) (os : List ObserverId) (tl : Timeline ε) : Timeline ε :=
  os.foldl (offer hooks e) (os.foldl retainObserver tl)

/-- Drop the dead from the registry; those left are the ones that the next entry is offered to. -/
def prune (tl : Timeline ε) : Timeline ε := { tl with registry := tl.registry.prune tl.isLive }

/-- Offer an entry to the registered observers. -/
def fanOut (hooks : Hooks ε) (e : Entry) (tl : Timeline ε) : Timeline ε :=
  let tl := tl.prune
  tl.deliver hooks e tl.registry

/-! ### Reports -/

/-- Store an entry, without offering it to anyone. Returns it as stored. -/
def store (hooks : Hooks ε) (e : Entry) (tl : Timeline ε) : Timeline ε × Entry :=
  let (recorder, stored, events) := tl.recorder.append e
  (tl.record hooks (recorder, events), stored)

/-- Report an entry: store it and offer it to the registered observers. Returns it as stored. -/
def report (hooks : Hooks ε) (e : Entry) (tl : Timeline ε) : Timeline ε × Entry :=
  let (tl, stored) := tl.store hooks e
  (tl.fanOut hooks stored, stored)

/-- Report a mark. -/
def reportMark (hooks : Hooks ε) (name : String) (start : TimeStamp) (tl : Timeline ε) :
    Timeline ε × Entry :=
  tl.report hooks (.mark name start)

/-- Report a measure from one time to another. -/
def reportMeasure (hooks : Hooks ε) (name : String) (start finish : TimeStamp) (tl : Timeline ε) :
    Timeline ε × Entry :=
  tl.report hooks (.measure name start (finish - start))

/-- Report an input event and count it. -/
def reportEvent (hooks : Hooks ε) (name : String) (start : TimeStamp) (duration : Duration)
    (timing : EventTiming) (tl : Timeline ε) : Timeline ε × Entry :=
  { tl with recorder := tl.recorder.countEvent name }.report hooks (.event name start duration timing)

/-- Report a long task. -/
def reportLongTask (hooks : Hooks ε) (name : String) (start : TimeStamp) (duration : Duration)
    (tl : Timeline ε) : Timeline ε × Entry :=
  tl.report hooks (.longTask name start duration)

/-- Report a resource. -/
def reportResource (hooks : Hooks ε) (name : String) (start : TimeStamp) (timing : ResourceTiming)
    (tl : Timeline ε) : Timeline ε × Entry :=
  tl.report hooks (.resource name start timing)

/-! ### Removal -/

/-- Remove the entries of one type selected by an optional name. -/
def clear (hooks : Hooks ε) (t : EntryType) (name : Option String) (tl : Timeline ε) : Timeline ε :=
  tl.record hooks (tl.recorder.clear t name)

/-- Remove the entries of every type. -/
def clearAll (hooks : Hooks ε) (tl : Timeline ε) : Timeline ε := tl.record hooks tl.recorder.clearAll

end PerfTimeline.Timeline
