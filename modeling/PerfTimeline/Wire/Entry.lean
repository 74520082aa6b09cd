import PerfTimeline.Entry.Basic
import PerfTimeline.Wire.EntryType

/-!
# Entries in JSON

An entry is one flat object: its name, its interval, its type and the members of its details. The sequence is
not written, so an entry that is read was never stored.

The header members are read as they come. All others are put aside; when the object is complete, the member
`entryType` among them selects the details, whose members are then read from those put aside. The type may
also be given by its index.
-/

namespace PerfTimeline.Entry

open PerfTimeline.Json

/-! ### Writing -/

/-- A time in written form. -/
def timeToJson (t : TimeStamp) : Value := .ofFloat t.millis

/-- The written members of details. -/
def detailsToJson : Details → List (String × Value)
  | .mark | .measure | .longTask => []
  | .event t =>
    [("processingStart", timeToJson t.processingStart), ("processingEnd", timeToJson t.processingEnd),
      ("interactionId", .ofNat t.interactionId.toNat)]
  | .resource t =>
    [("fetchStart", timeToJson t.fetchStart), ("requestStart", timeToJson t.requestStart),
      ("connectStart", Value.ofOption timeToJson t.connectStart),
      ("connectEnd", Value.ofOption timeToJson t.connectEnd),
      ("responseStart", Value.ofOption timeToJson t.responseStart),
      ("responseEnd", timeToJson t.responseEnd),
      ("responseStatus", Value.ofOption (fun n => .ofNat n.toNat) t.responseStatus)]

/-- The written members of an entry. -/
def members (e : Entry) : List (String × Value) :=
  [("name", .ofString e.name), ("startTime", timeToJson e.start),
    ("duration", .ofFloat e.duration.millis), ("entryType", e.entryType.toJson)] ++
  detailsToJson e.details

/-- The written form of an entry. -/
def toJson (e : Entry) : Value := .ofMembers e.members

/-- The text of a list of entries. -/
def listToText (es : List Entry) : String := (Value.ofList (es.map toJson)).render

/-! ### Reading details -/

/-- Members that were put aside. -/
abbrev Aside := List (String × Value)

/-- Read a time. -/
def timeOfJson (v : Value) : Read TimeStamp := (Value.float v).map TimeStamp.mk

/-- Read a length of time. -/
def durationOfJson (v : Value) : Read Duration := (Value.float v).map Duration.mk

/-- A member of a draft of details. -/
def detailReader {δ α : Type} (name : String) (read : Value → Read α) (get : δ → Option α)
    (set : α → δ → δ) : MemberReader δ where
  name := name
  required := false
  isGiven := fun d => (get d).isSome
  read := fun v d => do return set (← read v) d

/-- Read a draft from members that were put aside; unknown ones are left out. -/
def readAside {δ : Type} (readers : List (MemberReader δ)) (empty : δ) (aside : Aside) : Read δ :=
  aside.foldlM (fun d (name, v) => MemberReader.readNamed readers (fun _ _ d => .ok d) name v d) empty

/-- The event members read so far. -/
structure EventDraft where
  processingStart : Option TimeStamp := none
  processingEnd : Option TimeStamp := none
  interactionId : Option UInt32 := none

/-- The timing of a draft, which must have all members. -/
def EventDraft.toTiming (d : EventDraft) : Read EventTiming := do
  return {
    processingStart := ← MemberReader.require "processingStart" d.processingStart
    processingEnd := ← MemberReader.require "processingEnd" d.processingEnd
    interactionId := ← MemberReader.require "interactionId" d.interactionId }

/-- How the timing of an event is read. -/
def eventReaders : List (MemberReader EventDraft) :=
  [detailReader "processingStart" timeOfJson (·.processingStart) fun a d =>
      { d with processingStart := a },
    detailReader "processingEnd" timeOfJson (·.processingEnd) fun a d => { d with processingEnd := a },
    detailReader "interactionId" Value.word32 (·.interactionId) fun a d => { d with interactionId := a }]

/-- Read the timing of an event. -/
def eventOfAside (aside : Aside) : Read EventTiming := do
  let d ← readAside eventReaders {} aside
  d.toTiming

/-- The resource members read so far. -/
structure ResourceDraft where
  fetchStart : Option TimeStamp := none
  requestStart : Option TimeStamp := none
  connectStart : Option (Option TimeStamp) := none
  connectEnd : Option (Option TimeStamp) := none
  responseStart : Option (Option TimeStamp) := none
  responseEnd : Option TimeStamp := none
  responseStatus : Option (Option UInt16) := none

/-- The timing of a draft, which must have the members that are not optional. -/
def ResourceDraft.toTiming (d : ResourceDraft) : Read ResourceTiming := do
  return {
    fetchStart := ← MemberReader.require "fetchStart" d.fetchStart
    requestStart := ← MemberReader.require "requestStart" d.requestStart
    connectStart := d.connectStart.join
    connectEnd := d.connectEnd.join
    responseStart := d.responseStart.join
    responseEnd := ← MemberReader.require "responseEnd" d.responseEnd
    responseStatus := d.responseStatus.join }

/-- How the timing of a resource is read. -/
def resourceReaders : List (MemberReader ResourceDraft) :=
  [detailReader "fetchStart" timeOfJson (·.fetchStart) fun a d => { d with fetchStart := a },
    detailReader "requestStart" timeOfJson (·.requestStart) fun a d => { d with requestStart := a },
    detailReader "connectStart" (Value.optional timeOfJson) (·.connectStart) fun a d =>
      { d with connectStart := some a },
    detailReader "connectEnd" (Value.optional timeOfJson) (·.connectEnd) fun a d =>
      { d with connectEnd := some a },
    detailReader "responseStart" (Value.optional timeOfJson) (·.responseStart) fun a d =>
      { d with responseStart := some a },
    detailReader "responseEnd" timeOfJson (·.responseEnd) fun a d => { d with responseEnd := a },
    detailReader "responseStatus" (Value.optional Value.word16) (·.responseStatus) fun a d =>
      { d with responseStatus := some a }]

/-- Read the timing of a resource. -/
def resourceOfAside (aside : Aside) : Read ResourceTiming := do
  let d ← readAside resourceReaders {} aside
  d.toTiming

/-! ### Reading entries -/

/-- Read a type that was put aside: its name or its index. -/
def typeOfAside : Value → Read EntryType
  | .text t => do
    let name ← Read.ofFlaw t.read
    match EntryType.ofName? name with
    | some t => return t
    | none => throw (.cause (.unknownName name (EntryType.all.map EntryType.name)))
  | .number n => do
    match ← Value.numberOf n with
    | .nat k =>
      match EntryType.all[k]? with
      | some t => return t
      | none => throw (.cause (.outOfRange (.number (.nat k)) "variant index 0 <= i < 5"))
    | x => throw (.cause (.wrongKind (.number x) "variant identifier"))
  | v => v.mismatch "variant identifier"

/-- Find the type among the members put aside; it must be there once. The second part is what is left. -/
def splitType : Aside → Option EntryType → Read (EntryType × Aside)
  | [], none => .error (.cause (.missingMember "entryType"))
  | [], some t => .ok (t, [])
  | (name, v) :: aside, seen => do
    if name = "entryType" then
      if seen.isSome then throw (.cause (.repeatedMember "entryType"))
      else splitType aside (some (← typeOfAside v))
    else
      let (t, rest) ← splitType aside seen
      return (t, (name, v) :: rest)

/-- Read the details from the members put aside. -/
def detailsOfAside (aside : Aside) : Read Details := do
  let (t, rest) ← splitType aside none
  match t with
  | .mark => return .mark
  | .measure => return .measure
  | .longTask => return .longTask
  | .event => return .event (← eventOfAside rest)
  | .resource => return .resource (← resourceOfAside rest)

/-- The header read so far, and the other members in order. -/
structure Draft where
  name : Option String := none
  start : Option TimeStamp := none
  duration : Option Duration := none
  aside : Aside := []

/-- How the header is read. -/
def headerReaders : List (MemberReader Draft) :=
  [detailReader "name" Value.string (·.name) fun a d => { d with name := a },
    detailReader "startTime" timeOfJson (·.start) fun a d => { d with start := a },
    detailReader "duration" durationOfJson (·.duration) fun a d => { d with duration := a }]

/-- How many levels a member may nest that is put aside. -/
def asideDepth : Nat := 126

/-- Put a member aside. -/
def putAside (name : String) (v : Value) (d : Draft) : Read Draft := do
  Read.ofFlaw (v.hold asideDepth)
  return { d with aside := d.aside ++ [(name, v)] }

/-- The entry of a draft, which must have the header and what the details need. -/
def Draft.toEntry (d : Draft) : Read Entry := do
  let name ← MemberReader.require "name" d.name
  let start ← MemberReader.require "startTime" d.start
  let duration ← MemberReader.require "duration" d.duration
  return ⟨name, start, duration, ← detailsOfAside d.aside, 0⟩

/-- Read an entry. Only an object will do. -/
def ofJson : Value → Read Entry
  | .object members stop => do
    let d ← MemberReader.readMembers headerReaders putAside members {}
    Read.ofFlaw stop.check
    d.toEntry
  | .oddObject key => .error (.flaw key.keyFlaw)
  | v => v.mismatch "struct PerformanceEntry"

end PerfTimeline.Entry
