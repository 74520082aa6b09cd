import PerfTimeline.Observer.Filter

/-!
# Observe requests

The arguments of a request to observe, each of which may be missing. A list of types wins over a single
type; the other two arguments concern a single type only, and without either kind of type the request asks
for nothing.
-/

namespace PerfTimeline

/-- A request to observe. -/
structure ObserveRequest where
  entryTypes : Option (List EntryType) := none
  entryType : Option EntryType := none
  buffered : Option Bool := none
  threshold : Option Duration := none
deriving DecidableEq

/-- Observe one entry type. -/
def ObserveRequest.single (t : EntryType) : ObserveRequest := { entryType := some t }

/-- What a request comes down to. -/
inductive ObserveAction where
  | nothing
  | one (entryType : EntryType) (options : ObserveOptions)
  | many (types : List EntryType)
deriving DecidableEq

/-- The subscription that a request asks for. -/
def ObserveRequest.action (r : ObserveRequest) : ObserveAction :=
  match r.entryTypes, r.entryType with
  | some types, _ => .many types
  | none, some t => .one t ⟨r.buffered.getD false, r.threshold⟩
  | none, none => .nothing

end PerfTimeline
