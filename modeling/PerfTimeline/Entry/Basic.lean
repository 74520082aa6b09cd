import PerfTimeline.Time
import PerfTimeline.Entry.Kind

/-!
# Entries

An entry is a name, a start, a duration and the details of its type. Until an entry is stored its sequence
is `0`; a buffer that stores it gives it the next number of a counter. Entries are made by the five
constructors below, which fix the duration of a mark and of a resource.
-/

namespace PerfTimeline

/-- When an input event was processed, and the interaction it belongs to. -/
structure EventTiming where
  processingStart : TimeStamp
  processingEnd : TimeStamp
  interactionId : UInt32
deriving DecidableEq

/-- The course of a network fetch. -/
structure ResourceTiming where
  fetchStart : TimeStamp
  requestStart : TimeStamp
  connectStart : Option TimeStamp
  connectEnd : Option TimeStamp
  responseStart : Option TimeStamp
  responseEnd : TimeStamp
  responseStatus : Option UInt16
deriving DecidableEq

/-- What an entry says beyond its name and its interval. -/
inductive Details where
  | mark
  | measure
  | event (timing : EventTiming)
  | longTask
  | resource (timing : ResourceTiming)
deriving DecidableEq

/-- The entry type that the details belong to. -/
def Details.entryType : Details → EntryType
  | mark => .mark
  | measure => .measure
  | event _ => .event
  | longTask => .longTask
  | resource _ => .resource

/-- A recorded entry. -/
structure Entry where
  name : String
  start : TimeStamp
  duration : Duration
  details : Details
  /-- Its number in order of storage; `0` until it is stored. -/
  sequence : Nat
deriving DecidableEq

namespace Entry

/-- The type this entry is stored under. -/
def entryType (e : Entry) : EntryType := e.details.entryType

/-- The end of the entry's interval. -/
def finish (e : Entry) : TimeStamp := e.start + e.duration

/-- The entry with another sequence number. -/
def withSequence (e : Entry) (n : Nat) : Entry := { e with sequence := n }

/-! ### Making entries -/

/-- A mark has no length. -/
def mark (name : String) (start : TimeStamp) : Entry := ⟨name, start, .zero, .mark, 0⟩

/-- A measure of a given length, which may be negative. -/
def measure (name : String) (start : TimeStamp) (duration : Duration) : Entry :=
  ⟨name, start, duration, .measure, 0⟩

/-- An input event. -/
def event (name : String) (start : TimeStamp) (duration : Duration) (timing : EventTiming) : Entry :=
  ⟨name, start, duration, .event timing, 0⟩

/-- A long task. -/
def longTask (name : String) (start : TimeStamp) (duration : Duration) : Entry :=
  ⟨name, start, duration, .longTask, 0⟩

/-- A resource lasts from its start to the end of the response. -/
def resource (name : String) (start : TimeStamp) (timing : ResourceTiming) : Entry :=
  ⟨name, start, timing.responseEnd - start, .resource timing, 0⟩

@[simp] theorem entryType_withSequence (e : Entry) (n : Nat) :
    (e.withSequence n).entryType = e.entryType := rfl

@[simp] theorem sequence_withSequence (e : Entry) (n : Nat) : (e.withSequence n).sequence = n := rfl

end Entry

/-! ### Selecting by name -/

/-- Whether `e` is selected by an optional name; no name selects every entry. -/
def Entry.isNamed (name : Option String) (e : Entry) : Bool :=
  match name with
  | none => true
  | some n => e.name == n

end PerfTimeline
