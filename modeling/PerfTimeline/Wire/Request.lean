import PerfTimeline.Json.Reader
import PerfTimeline.Observer.Request
import PerfTimeline.Wire.EntryType

/-!
# Observe requests in JSON

Every member may be missing or `null`.
-/

namespace PerfTimeline.ObserveRequest

open PerfTimeline.Json

/-- The written form of a request. -/
def toJson (r : ObserveRequest) : Value :=
  .ofMembers
    [("entryTypes", Value.ofOption (fun ts => .ofList (ts.map EntryType.toJson)) r.entryTypes),
      ("type", Value.ofOption EntryType.toJson r.entryType),
      ("buffered", Value.ofOption Value.bool r.buffered),
      ("durationThreshold", Value.ofOption (fun d => .ofFloat d.millis) r.threshold)]

/-- The members read so far; each may have been given as `null`. -/
structure Draft where
  entryTypes : Option (Option (List EntryType)) := none
  entryType : Option (Option EntryType) := none
  buffered : Option (Option Bool) := none
  threshold : Option (Option Duration) := none

/-- How the members are read. -/
def readers : List (MemberReader Draft) :=
  [{ name := "entryTypes"
     required := false
     isGiven := (·.entryTypes.isSome)
     read := fun v d => do
       return { d with entryTypes := some (← Value.optional (Value.listOf EntryType.ofJson) v) } },
    { name := "type"
      required := false
      isGiven := (·.entryType.isSome)
      read := fun v d => do return { d with entryType := some (← Value.optional EntryType.ofJson v) } },
    { name := "buffered"
      required := false
      isGiven := (·.buffered.isSome)
      read := fun v d => do return { d with buffered := some (← Value.optional Value.boolean v) } },
    { name := "durationThreshold"
      required := false
      isGiven := (·.threshold.isSome)
      read := fun v d => do
        return { d with threshold := some ((← Value.optional Value.float v).map Duration.mk) } }]

/-- Read a request. -/
def ofJson (v : Value) : Read ObserveRequest := do
  let d ← MemberReader.readDraft "struct ObserveRequest" readers {} v
  return ⟨d.entryTypes.join, d.entryType.join, d.buffered.join, d.threshold.join⟩

/-- Read the text of a request. -/
def ofText (s : String) : Read ObserveRequest := (Document.ofString s).read ofJson

end PerfTimeline.ObserveRequest
