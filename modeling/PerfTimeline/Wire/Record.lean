import PerfTimeline.Entry.Record
import PerfTimeline.Wire.EntryType

/-!
# Flat records in JSON

The first four members are always written; each of the others only when the record has it. In reading, the
others may be missing or `null`.
-/

namespace PerfTimeline.Record

open PerfTimeline.Json

/-- An optional member: written only when it has a value. -/
def optionalMember {α : Type} (name : String) (f : α → Value) : Option α → List (String × Value)
  | none => []
  | some a => [(name, f a)]

/-- The written members of a record. -/
def members (r : Record) : List (String × Value) :=
  [("name", .ofString r.name), ("entryType", r.entryType.toJson),
    ("startTime", .ofFloat r.startTime), ("duration", .ofFloat r.duration)] ++
  optionalMember "processingStart" .ofFloat r.processingStart ++
  optionalMember "processingEnd" .ofFloat r.processingEnd ++
  optionalMember "interactionId" (fun n => .ofNat n.toNat) r.interactionId ++
  optionalMember "fetchStart" .ofFloat r.fetchStart ++
  optionalMember "requestStart" .ofFloat r.requestStart ++
  optionalMember "connectStart" .ofFloat r.connectStart ++
  optionalMember "connectEnd" .ofFloat r.connectEnd ++
  optionalMember "responseStart" .ofFloat r.responseStart ++
  optionalMember "responseEnd" .ofFloat r.responseEnd ++
  optionalMember "responseStatus" (fun n => .ofNat n.toNat) r.responseStatus

/-- The written form of a record. -/
def toJson (r : Record) : Value := .ofMembers r.members

/-- The text of a list of records. -/
def listToText (rs : List Record) : String := (Value.ofList (rs.map toJson)).render

/-- The members read so far. -/
structure Draft where
  name : Option String := none
  entryType : Option EntryType := none
  startTime : Option Float := none
  duration : Option Float := none
  processingStart : Option (Option Float) := none
  processingEnd : Option (Option Float) := none
  interactionId : Option (Option UInt32) := none
  fetchStart : Option (Option Float) := none
  requestStart : Option (Option Float) := none
  connectStart : Option (Option Float) := none
  connectEnd : Option (Option Float) := none
  responseStart : Option (Option Float) := none
  responseEnd : Option (Option Float) := none
  responseStatus : Option (Option UInt16) := none

/-- A member that must be given. -/
def requiredReader {α : Type} (name : String) (read : Value → Read α) (get : Draft → Option α)
    (set : α → Draft → Draft) : MemberReader Draft where
  name := name
  required := true
  isGiven := fun d => (get d).isSome
  read := fun v d => do return set (← read v) d

/-- A member that may be missing or `null`. -/
def optionalReader {α : Type} (name : String) (read : Value → Read α) (get : Draft → Option (Option α))
    (set : Option α → Draft → Draft) : MemberReader Draft where
  name := name
  required := false
  isGiven := fun d => (get d).isSome
  read := fun v d => do return set (← Value.optional read v) d

/-- How the members are read. -/
def readers : List (MemberReader Draft) :=
  [requiredReader "name" Value.string (·.name) fun a d => { d with name := a },
    requiredReader "entryType" EntryType.ofJson (·.entryType) fun a d => { d with entryType := a },
    requiredReader "startTime" Value.float (·.startTime) fun a d => { d with startTime := a },
    requiredReader "duration" Value.float (·.duration) fun a d => { d with duration := a },
    optionalReader "processingStart" Value.float (·.processingStart) fun a d =>
      { d with processingStart := some a },
    optionalReader "processingEnd" Value.float (·.processingEnd) fun a d =>
      { d with processingEnd := some a },
    optionalReader "interactionId" Value.word32 (·.interactionId) fun a d =>
      { d with interactionId := some a },
    optionalReader "fetchStart" Value.float (·.fetchStart) fun a d => { d with fetchStart := some a },
    optionalReader "requestStart" Value.float (·.requestStart) fun a d =>
      { d with requestStart := some a },
    optionalReader "connectStart" Value.float (·.connectStart) fun a d =>
      { d with connectStart := some a },
    optionalReader "connectEnd" Value.float (·.connectEnd) fun a d => { d with connectEnd := some a },
    optionalReader "responseStart" Value.float (·.responseStart) fun a d =>
      { d with responseStart := some a },
    optionalReader "responseEnd" Value.float (·.responseEnd) fun a d =>
      { d with responseEnd := some a },
    optionalReader "responseStatus" Value.word16 (·.responseStatus) fun a d =>
      { d with responseStatus := some a }]

/-- The record of a draft, which must have the first four members. -/
def Draft.toRecord (d : Draft) : Read Record := do
  return {
    name := ← MemberReader.require "name" d.name
    entryType := ← MemberReader.require "entryType" d.entryType
    startTime := ← MemberReader.require "startTime" d.startTime
    duration := ← MemberReader.require "duration" d.duration
    processingStart := d.processingStart.join
    processingEnd := d.processingEnd.join
    interactionId := d.interactionId.join
    fetchStart := d.fetchStart.join
    requestStart := d.requestStart.join
    connectStart := d.connectStart.join
    connectEnd := d.connectEnd.join
    responseStart := d.responseStart.join
    responseEnd := d.responseEnd.join
    responseStatus := d.responseStatus.join }

/-- Read a record. -/
def ofJson (v : Value) : Read Record := do
  let d ← MemberReader.readDraft "struct NativePerformanceEntry" readers {} v
  d.toRecord

end PerfTimeline.Record
