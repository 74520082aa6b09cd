import PerfTimeline.Entry.Order
import PerfTimeline.Entry.PerType
import PerfTimeline.Retention.Buffer
import PerfTimeline.Retention.EventCounts

/-!
# The recorder

The recorder keeps one buffer for each entry type and numbers all entries from one counter. A buffer comes
into being when the first entry of its type arrives; until then its type counts as empty, and clearing it is
no event. Beside the entries it counts the input events by name.
-/

namespace PerfTimeline

/-- The capacities of the five buffers. -/
abbrev Capacities := PerType Capacity

/-- Marks and measures are kept without bound; the other types have room for a fixed number. -/
def Capacities.standard : Capacities := ⟨none, none, some 150, some 200, some 250⟩

/-- Stored entries of all types, and the event counts. -/
structure Recorder where
  capacities : Capacities
  /-- The buffers in use. -/
  buffers : PerType (Option Buffer) := .const none
  /-- The number of entries reported so far, which is also the number given out last. -/
  sequence : Nat := 0
  counts : EventCounts := []
deriving DecidableEq

namespace Recorder

/-- A recorder with nothing in it. -/
def new (capacities : Capacities) : Recorder := { capacities }

/-- The buffer of a type, as it is or as it would start. -/
def buffer (r : Recorder) (t : EntryType) : Buffer :=
  (r.buffers.get t).getD (.empty t (r.capacities.get t))

/-! ### Storing -/

/-- Store an entry under the next number, in the buffer of its type. Returns it as stored, and the trace:
first the entries given up for it, then the report itself. -/
def append (r : Recorder) (e : Entry) : Recorder × Entry × List TraceEvent :=
  let stored := e.withSequence (r.sequence + 1)
  let (b, evicted) := (r.buffer e.entryType).append stored
  ({ r with sequence := r.sequence + 1, buffers := r.buffers.set e.entryType (some b) },
    stored, evicted ++ [.reported stored])

@[simp] theorem sequence_append (r : Recorder) (e : Entry) :
    (r.append e).1.sequence = r.sequence + 1 := rfl

@[simp] theorem stored_append (r : Recorder) (e : Entry) :
    (r.append e).2.1 = e.withSequence (r.sequence + 1) := rfl

@[simp] theorem counts_append (r : Recorder) (e : Entry) : (r.append e).1.counts = r.counts := rfl

theorem buffer_append_self (r : Recorder) (e : Entry) :
    (r.append e).1.buffer e.entryType =
      ((r.buffer e.entryType).append (e.withSequence (r.sequence + 1))).1 := by
  simp [append, buffer]

theorem buffer_append_of_ne (r : Recorder) {e : Entry} {t : EntryType} (h : t ≠ e.entryType) :
    (r.append e).1.buffer t = r.buffer t := by
  simp [append, buffer, h]

/-- Count an occurrence of an input event. -/
def countEvent (r : Recorder) (name : String) : Recorder := { r with counts := r.counts.bump name }

/-- Forget all event counts. -/
def clearCounts (r : Recorder) : Recorder := { r with counts := [] }

/-! ### Reading -/

/-- The entries of one type selected by an optional name, in order of storage. -/
def select (r : Recorder) (t : EntryType) (name : Option String) : List Entry :=
  match r.buffers.get t with
  | none => []
  | some b => b.select name

theorem select_eq (r : Recorder) (t : EntryType) (name : Option String) :
    r.select t name = (r.buffer t).select name := by
  unfold select buffer
  cases r.buffers.get t <;> rfl

/-- The entries of several types selected by an optional name, in the order of entries. -/
def selectSorted (r : Recorder) (types : List EntryType) (name : Option String) : List Entry :=
  Entry.sort (types.flatMap fun t => r.select t name)

/-- The start of the mark of that name that was stored last. -/
def markTime? (r : Recorder) (name : String) : Option TimeStamp :=
  (r.buffers.mark.bind (·.findLast? name)).map (·.start)

/-- The number of entries of one type. -/
def size (r : Recorder) (t : EntryType) : Nat := (r.buffers.get t).elim 0 Buffer.size

/-- The number of entries of one type that were given up or refused. -/
def dropped (r : Recorder) (t : EntryType) : Nat := (r.buffers.get t).elim 0 (·.dropped)

theorem size_eq (r : Recorder) (t : EntryType) : r.size t = (r.buffer t).size := by
  unfold size buffer
  cases r.buffers.get t <;> rfl

theorem dropped_eq (r : Recorder) (t : EntryType) : r.dropped t = (r.buffer t).dropped := by
  unfold dropped buffer
  cases r.buffers.get t <;> rfl

/-! ### Removing -/

/-- Remove the entries of one type selected by an optional name. A type without a buffer leaves no trace. -/
def clear (r : Recorder) (t : EntryType) (name : Option String) : Recorder × List TraceEvent :=
  match r.buffers.get t with
  | none => (r, [])
  | some b =>
    ({ r with buffers := r.buffers.set t (some (b.clear name)) }, [.cleared t name (b.clearCount name)])

theorem buffer_clear_self (r : Recorder) (t : EntryType) (name : Option String) :
    (r.clear t name).1.buffer t = (r.buffer t).clear name := by
  unfold clear buffer
  cases h : r.buffers.get t with
  | none => simp only [h]; rfl
  | some b => simp

theorem buffer_clear_of_ne (r : Recorder) {t u : EntryType} (h : u ≠ t) (name : Option String) :
    (r.clear t name).1.buffer u = r.buffer u := by
  unfold clear buffer
  cases r.buffers.get t <;> simp [h]

/-- Remove the entries of every type. -/
def clearAll (r : Recorder) : Recorder × List TraceEvent :=
  EntryType.all.foldl (fun (r, events) t => let (r, more) := r.clear t none; (r, events ++ more)) (r, [])

/-- Start counting the dropped entries of every type from zero. -/
def resetDropped (r : Recorder) : Recorder :=
  { r with buffers := r.buffers.map (Option.map Buffer.resetDropped) }

end Recorder

end PerfTimeline
