import PerfTimeline.Entry.Basic

/-!
# Trace events

The timeline tells what it does in trace events. Each has a level, the part of the timeline it comes from,
a fixed message and fields that describe the case.
-/

namespace PerfTimeline

/-- Something the timeline reports about its own work. -/
inductive TraceEvent where
  /-- A full buffer gave up its oldest entry; `dropped` counts it already. -/
  | evicted (entryType : EntryType) (name : String) (dropped : Nat)
  /-- An entry was reported and stored. -/
  | reported (entry : Entry)
  /-- Entries were removed; no name stands for all of them. -/
  | cleared (entryType : EntryType) (name : Option String) (removed : Nat)
  /-- An observer's queue was full, so the entry was not queued. -/
  | queueFull (name : String) (dropped : Nat)
  /-- An observer asks to be dispatched. -/
  | dispatchRequested
  /-- An observer observes one entry type from now on. -/
  | observingOne (entryType : EntryType) (buffered : Bool)
  /-- An observer observes a set of entry types from now on. -/
  | observingMany (types : Nat)
  /-- An observer was disconnected. -/
  | disconnected
  /-- A performance module made an observer. -/
  | observerCreated
deriving DecidableEq

/-- How much a trace event matters. -/
inductive TraceLevel where
  | trace
  | debug
deriving DecidableEq

/-- The written name of a level. -/
def TraceLevel.name : TraceLevel → String
  | trace => "TRACE"
  | debug => "DEBUG"

/-- The value of a field of a trace event. -/
inductive TraceValue where
  | text (s : String)
  | count (n : Nat)
  | flag (b : Bool)
  | number (x : Float)
deriving DecidableEq

namespace TraceEvent

/-- The level of a trace event. -/
def level : TraceEvent → TraceLevel
  | evicted .. | reported .. | queueFull .. | dispatchRequested => .trace
  | cleared .. | observingOne .. | observingMany .. | disconnected | observerCreated => .debug

/-- The part of the timeline a trace event comes from. -/
def target : TraceEvent → String
  | evicted .. => "timeline::buffer"
  | reported .. | cleared .. => "timeline::reporter"
  | queueFull .. | dispatchRequested | observingOne .. | observingMany .. | disconnected =>
    "timeline::observer"
  | observerCreated => "performance::observer"

/-- The message of a trace event. -/
def message : TraceEvent → String
  | evicted .. => "evicted oldest entry"
  | reported .. => "entry reported"
  | cleared .. => "entries cleared"
  | queueFull .. => "observer buffer full, entry dropped"
  | dispatchRequested => "dispatch requested"
  | observingOne .. => "observing single entry type"
  | observingMany .. => "observing multiple entry types"
  | disconnected => "observer disconnected"
  | observerCreated => "observer created"

/-- The fields of a trace event. -/
def fields : TraceEvent → List (String × TraceValue)
  | evicted t name dropped =>
    [("entry_type", .text t.name), ("name", .text name), ("dropped", .count dropped)]
  | reported e =>
    [("entry_type", .text e.entryType.name), ("name", .text e.name),
      ("start_time", .number e.start.millis), ("duration", .number e.duration.millis)]
  | cleared t name removed =>
    [("entry_type", .text t.name), ("name", .text (name.getD "*")), ("removed", .count removed)]
  | queueFull name dropped => [("name", .text name), ("dropped", .count dropped)]
  | observingOne t buffered => [("entry_type", .text t.name), ("buffered", .flag buffered)]
  | observingMany types => [("types", .count types)]
  | dispatchRequested | disconnected | observerCreated => []

end TraceEvent

end PerfTimeline
