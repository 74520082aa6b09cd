import PerfTimeline.Timeline.Delivery
import PerfTimeline.Timeline.Subscription

/-!
# Operations and runs

What a program does with a timeline, as data, so that a run is a list of operations. An operation on an
observer needs a handle, so nothing comes of it once the observer is dead.
-/

namespace PerfTimeline

/-- An operation on a timeline. The last five go past reports and subscriptions, or end them. -/
inductive Operation where
  | report (e : Entry)
  /-- Report an input event by its parts, which also counts it. -/
  | reportEvent (name : String) (start : TimeStamp) (duration : Duration) (timing : EventTiming)
  | clear (t : EntryType) (name : Option String)
  | clearAll
  | resetDropped
  | clearCounts
  | create (limit : Nat) (route : Route)
  /-- Make one more handle of an observer. -/
  | clone (o : ObserverId)
  | drop (o : ObserverId)
  | observeOne (o : ObserverId) (t : EntryType) (options : ObserveOptions)
  | observeMany (o : ObserverId) (types : List EntryType)
  | take (o : ObserverId) (sorted : Bool)
  | disconnect (o : ObserverId)
  /-- Offer an entry to one observer directly. -/
  | push (o : ObserverId) (e : Entry)
  | register (o : ObserverId)
  | unregister (o : ObserverId)
  | fanOut (e : Entry)
  /-- Give the recorder up. -/
  | close
deriving DecidableEq

inductive Answer where
  | done
  | stored (e : Entry)
  | made (o : ObserverId)
  | records (es : List Entry)
  | queued (b : Bool)
deriving DecidableEq

def Answer.taken : Answer → List Entry
  | records es => es
  | _ => []

namespace Operation

/-- Whether an operation goes past reports and subscriptions: it offers an entry or changes the registry
directly. -/
def isDirect : Operation → Bool
  | push .. | register _ | unregister _ | fanOut _ => true
  | _ => false

/-- Whether the recorder keeps its owner. -/
def keepsOpen : Operation → Bool
  | close => false
  | _ => true

def drains (o : ObserverId) : Operation → Bool
  | take p _ => p == o
  | _ => false

/-- The entry that an operation reports, before it is stored. -/
def reported? : Operation → Option Entry
  | report e => some e
  | reportEvent name start duration timing => some (.event name start duration timing)
  | _ => none

def subscribes (o : ObserverId) : Operation → Bool
  | observeOne p _ _ => p == o
  | observeMany p _ => p == o
  | _ => false

def disconnects (o : ObserverId) : Operation → Bool
  | disconnect p => p == o
  | _ => false

def onRecorder : Operation → Recorder → Recorder
  | report e, r => (r.append e).1
  | reportEvent name start duration timing, r =>
    ((r.countEvent name).append (.event name start duration timing)).1
  | clear t name, r => (r.clear t name).1
  | clearAll, r => r.clearAll.1
  | resetDropped, r => r.resetDropped
  | clearCounts, r => r.clearCounts
  | _, r => r

end Operation

namespace Timeline

variable {ε : Type}

/-- A new timeline, whose recorder has one owner. -/
def new (capacities : Capacities) (host : ε) : Timeline ε := { recorder := .new capacities, host }

/-- Act on an observer that is alive. -/
def onLive (o : ObserverId) (act : Timeline ε → Timeline ε × Answer) (tl : Timeline ε) :
    Timeline ε × Answer :=
  if tl.isLive o then act tl else (tl, .done)

def perform (hooks : Hooks ε) (tl : Timeline ε) : Operation → Timeline ε × Answer
  | .report e => let (tl, stored) := tl.report hooks e; (tl, .stored stored)
  | .reportEvent name start duration timing =>
    let (tl, stored) := tl.reportEvent hooks name start duration timing; (tl, .stored stored)
  | .clear t name => (tl.clear hooks t name, .done)
  | .clearAll => (tl.clearAll hooks, .done)
  | .resetDropped => ({ tl with recorder := tl.recorder.resetDropped }, .done)
  | .clearCounts => ({ tl with recorder := tl.recorder.clearCounts }, .done)
  | .create limit route => let (tl, o) := tl.create limit route; (tl, .made o)
  | .clone o => tl.onLive o fun tl => (tl.retainObserver o, .done)
  | .drop o => (tl.releaseObserver o, .done)
  | .observeOne o t options => tl.onLive o fun tl => (tl.observeOne hooks o t options, .done)
  | .observeMany o types => tl.onLive o fun tl => (tl.observeMany hooks o types, .done)
  | .take o sorted => tl.onLive o fun tl => let (tl, es) := tl.take o sorted; (tl, .records es)
  | .disconnect o => tl.onLive o fun tl => (tl.disconnect hooks o, .done)
  | .push o e => tl.onLive o fun tl => let (tl, queued) := tl.push hooks o e; (tl, .queued queued)
  | .register o => tl.onLive o fun tl => (tl.register o, .done)
  | .unregister o => tl.onLive o fun tl => (tl.unregister o, .done)
  | .fanOut e => (tl.fanOut hooks e, .done)
  | .close => (tl.release, .done)

/-- The timeline after some operations. -/
def run (hooks : Hooks ε) (tl : Timeline ε) (ops : List Operation) : Timeline ε :=
  ops.foldl (fun tl op => (tl.perform hooks op).1) tl

@[simp] theorem run_nil (hooks : Hooks ε) (tl : Timeline ε) : tl.run hooks [] = tl := rfl

@[simp] theorem run_cons (hooks : Hooks ε) (tl : Timeline ε) (op : Operation) (ops : List Operation) :
    tl.run hooks (op :: ops) = (tl.perform hooks op).1.run hooks ops := rfl

theorem run_append (hooks : Hooks ε) (tl : Timeline ε) (a b : List Operation) :
    tl.run hooks (a ++ b) = (tl.run hooks a).run hooks b := List.foldl_append

/-- What is true at first and kept by every operation of a run is true in the end. -/
theorem run_induction {hooks : Hooks ε} {P : Timeline ε → Prop} {ops : List Operation}
    (step : ∀ tl, ∀ op ∈ ops, P tl → P (tl.perform hooks op).1) {tl : Timeline ε} (start : P tl) :
    P (tl.run hooks ops) := by
  induction ops generalizing tl with
  | nil => exact start
  | cons op ops ih =>
    exact ih (fun tl p hp => step tl p (List.mem_cons_of_mem _ hp)) (step tl op List.mem_cons_self start)

/-- What an operation drains from an observer, if it does. -/
def drained (hooks : Hooks ε) (o : ObserverId) (tl : Timeline ε) (op : Operation) : List (List Entry) :=
  if op.drains o then [(tl.perform hooks op).2.taken] else []

/-- What the drains of an observer give out in the course of a run. -/
def drains (hooks : Hooks ε) (o : ObserverId) (tl : Timeline ε) : List Operation → List (List Entry)
  | [] => []
  | op :: ops => tl.drained hooks o op ++ drains hooks o (tl.perform hooks op).1 ops

theorem drains_append (hooks : Hooks ε) (o : ObserverId) (tl : Timeline ε) (a b : List Operation) :
    tl.drains hooks o (a ++ b) = tl.drains hooks o a ++ (tl.run hooks a).drains hooks o b := by
  induction a generalizing tl with
  | nil => rfl
  | cons op a ih =>
    rw [List.cons_append, drains, ih, drains, List.append_assoc]
    rfl

theorem drains_eq_nil {hooks : Hooks ε} {o : ObserverId} {ops : List Operation}
    (hops : ∀ op ∈ ops, op.drains o = false) (tl : Timeline ε) : tl.drains hooks o ops = [] := by
  induction ops generalizing tl with
  | nil => rfl
  | cons op ops ih =>
    rw [drains, ih fun op' hm => hops op' (List.mem_cons_of_mem _ hm)]
    simp [drained, hops op List.mem_cons_self]

end Timeline

end PerfTimeline
