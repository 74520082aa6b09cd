import PerfTimeline.Json.Members
import PerfTimeline.Observer.Basic
import PerfTimeline.Retention.Recorder

/-!
# Settings in JSON

The capacities of a recorder and the queue limit of an observer. Every member may be missing and then keeps
its standard value; a capacity of `null` is unbounded.
-/

namespace PerfTimeline

open PerfTimeline.Json

namespace Capacities

/-- The member that holds the capacity of a type. -/
def key : EntryType → String
  | .mark => "markCapacity"
  | .measure => "measureCapacity"
  | .event => "eventCapacity"
  | .longTask => "longTaskCapacity"
  | .resource => "resourceCapacity"

/-- The written form of capacities. -/
def toJson (c : Capacities) : Value :=
  .ofMembers (EntryType.all.map fun t => (key t, Value.ofOption Value.ofNat (c.get t)))

/-- How the capacity of a type is read. -/
def reader (t : EntryType) : MemberReader (PerType (Option Capacity)) where
  name := key t
  required := false
  isGiven := fun draft => (draft.get t).isSome
  read := fun v draft => do return draft.set t (some (← Value.optional Value.size v))

/-- Read capacities. -/
def ofJson (v : Value) : Read Capacities := do
  let draft ← MemberReader.readDraft "struct ReporterConfig" (EntryType.all.map reader) (.const none) v
  let pick (t : EntryType) : Capacity := (draft.get t).getD (standard.get t)
  return ⟨pick .mark, pick .measure, pick .event, pick .longTask, pick .resource⟩

end Capacities

namespace QueueLimit

/-- The written form of a queue limit. -/
def toJson (limit : Nat) : Value := .ofMembers [("maxBufferSize", .ofNat limit)]

/-- How a queue limit is read. -/
def reader : MemberReader (Option Nat) where
  name := "maxBufferSize"
  required := false
  isGiven := Option.isSome
  read := fun v _ => do return some (← Value.size v)

/-- Read a queue limit. -/
def ofJson (v : Value) : Read Nat := do
  let draft ← MemberReader.readDraft "struct ObserverConfig" [reader] none v
  return draft.getD Observer.standardLimit

end QueueLimit

end PerfTimeline
