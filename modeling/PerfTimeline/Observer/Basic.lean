import PerfTimeline.Entry.Order
import PerfTimeline.Observer.Filter
import PerfTimeline.Trace

/-!
# Observers

An observer queues the entries that pass its filter until somebody takes them. With the first entry of a
round it becomes pending and asks to be dispatched, once; taking the records makes it idle again.
Disconnecting it is final.

A buffered subscription begins with the entries stored so far and remembers the greatest sequence among
them, the watermark. A stored entry at or below the watermark was copied then, so it is not queued again when
its own delivery reaches the observer later.
-/

namespace PerfTimeline

/-- Where an observer is in its round. -/
inductive ObserverStatus where
  | idle
  | pending
  | disconnected
deriving DecidableEq

/-- The written name of a status. -/
def ObserverStatus.name : ObserverStatus → String
  | idle => "idle"
  | pending => "pending"
  | disconnected => "disconnected"

/-- The state of an observer. -/
structure Observer where
  /-- The most records the queue holds. -/
  limit : Nat
  filter : Filter := .nothing
  /-- The queued records, oldest first. -/
  queue : List Entry := []
  /-- How many entries passed the filter but found the queue full. -/
  dropped : Nat := 0
  status : ObserverStatus := .idle
  watermark : Option Nat := none
deriving DecidableEq

namespace Observer

/-- The queue limit of an observer that is given no other. -/
def standardLimit : Nat := 1000

/-- Whether the observer was disconnected. -/
def isDisconnected (o : Observer) : Bool := o.status == .disconnected

/-- Whether an entry passes the filter of a connected observer. -/
def admits (o : Observer) (e : Entry) : Bool := !o.isDisconnected && o.filter.admits e

/-- Whether a connected observer is subscribed to a type. -/
def isObserving (o : Observer) (t : EntryType) : Bool := !o.isDisconnected && o.filter.covers t

/-- Whether an entry was copied when the current subscription began. -/
def hasCopied (o : Observer) (e : Entry) : Bool :=
  match o.watermark with
  | none => false
  | some w => e.sequence != 0 && e.sequence ≤ w

/-! ### The queue -/

/-- Whether the queue has room for another record. -/
def hasRoom (o : Observer) : Bool := o.queue.length < o.limit

/-- Queue an entry, or count it as dropped when the queue is full. -/
def enqueue (o : Observer) (e : Entry) : Observer × List TraceEvent :=
  if o.hasRoom then ({ o with queue := o.queue ++ [e] }, [])
  else ({ o with dropped := o.dropped + 1 }, [.queueFull e.name (o.dropped + 1)])

/-- Queue entries one after another. -/
def enqueueAll (o : Observer) (es : List Entry) : Observer × List TraceEvent :=
  es.foldl (fun (o, events) e => let (o, more) := o.enqueue e; (o, events ++ more)) (o, [])

/-- Become pending if an idle observer has records; then a dispatch has to be requested, which the second
part says. -/
def awaken (o : Observer) : Observer × Bool :=
  if o.status = .idle ∧ o.queue ≠ [] then ({ o with status := .pending }, true) else (o, false)

/-- The queue never grows beyond its limit. -/
theorem length_queue_enqueue_le {o : Observer} (h : o.queue.length ≤ o.limit) (e : Entry) :
    (o.enqueue e).1.queue.length ≤ o.limit := by
  by_cases hr : o.hasRoom = true
  · simp only [enqueue, hr, if_true, List.length_append, List.length_cons, List.length_nil]
    simp only [hasRoom, decide_eq_true_eq] at hr
    omega
  · simp only [enqueue, hr]
    exact h

/-- An entry that is offered is either queued or counted as dropped. -/
theorem length_queue_add_dropped_enqueue (o : Observer) (e : Entry) :
    (o.enqueue e).1.queue.length + (o.enqueue e).1.dropped = o.queue.length + o.dropped + 1 := by
  cases hr : o.hasRoom <;> simp [enqueue, hr] <;> omega

/-- Only the status changes when an observer becomes pending. -/
theorem awaken_eq (o : Observer) : ∃ s, o.awaken.1 = { o with status := s } := by
  unfold awaken
  split
  · exact ⟨_, rfl⟩
  · exact ⟨o.status, rfl⟩

/-! ### Operations -/

/-- What an operation brings about beside the new state. -/
structure Reaction where
  /-- Whether an offered entry was queued. -/
  queued : Bool := false
  /-- Whether a dispatch has to be requested. -/
  wakes : Bool := false
  events : List TraceEvent := []
deriving DecidableEq

/-- Offer an entry. It is queued if it passes the filter, was not copied already and finds room. -/
def push (o : Observer) (e : Entry) : Observer × Reaction :=
  if o.admits e && !o.hasCopied e then
    let (next, events) := o.enqueue e
    if o.hasRoom then
      let (next, wakes) := next.awaken
      (next, { queued := true, wakes, events })
    else (next, { events })
  else (o, {})

/-- Subscribe a connected observer to one entry type. A buffered subscription is given the stored entries of
that type, unless they are out of reach; it copies those that are long enough. -/
def observeOne (o : Observer) (t : EntryType) (options : ObserveOptions) (stored : Option (List Entry)) :
    Observer × Reaction :=
  if o.isDisconnected then (o, {})
  else
    let existing : List Entry := if options.buffered then stored.getD [] else []
    let subscribed :=
      { o with filter := .one t options, watermark := (existing.map Entry.sequence).max? }
    let (filled, events) := subscribed.enqueueAll (existing.filter options.admits)
    let (next, wakes) := filled.awaken
    (next, { wakes, events := events ++ [.observingOne t options.buffered] })

/-- Subscribe a connected observer to a set of entry types. -/
def observeMany (o : Observer) (types : List EntryType) : Observer × Reaction :=
  if o.isDisconnected then (o, {})
  else
    let set := EntryType.all.filter types.contains
    ({ o with filter := .many set, watermark := none }, { events := [.observingMany set.length] })

/-- Take the queued records out, sorted on request. -/
def take (o : Observer) (sorted : Bool) : Observer × List Entry :=
  ({ o with queue := [], status := if o.status = .pending then .idle else o.status },
    if sorted then Entry.sort o.queue else o.queue)

/-- Stop observing, for good. A second time does nothing. -/
def disconnect (o : Observer) : Observer × Reaction :=
  if o.isDisconnected then (o, {})
  else ({ limit := o.limit, status := .disconnected }, { events := [.disconnected] })

theorem push_of_isDisconnected {o : Observer} (h : o.isDisconnected = true) (e : Entry) :
    o.push e = (o, {}) := by
  simp [push, admits, h]

theorem observeOne_of_isDisconnected {o : Observer} (h : o.isDisconnected = true) (t : EntryType)
    (options : ObserveOptions) (stored : Option (List Entry)) :
    o.observeOne t options stored = (o, {}) := by
  simp [observeOne, h]

theorem observeMany_of_isDisconnected {o : Observer} (h : o.isDisconnected = true)
    (types : List EntryType) : o.observeMany types = (o, {}) := by
  simp [observeMany, h]

theorem isDisconnected_disconnect (o : Observer) : o.disconnect.1.isDisconnected = true := by
  unfold disconnect
  split
  · assumption
  · rfl

@[simp] theorem queue_take (o : Observer) (sorted : Bool) : (o.take sorted).1.queue = [] := rfl

/-- Taking records out loses none of them. -/
theorem take_perm (o : Observer) (sorted : Bool) : (o.take sorted).2.Perm o.queue := by
  cases sorted
  · exact .refl _
  · exact Entry.sort_perm _

end Observer

end PerfTimeline
