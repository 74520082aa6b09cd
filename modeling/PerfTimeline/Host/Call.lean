import PerfTimeline.Json.Fault
import PerfTimeline.Module.Basic
import PerfTimeline.Startup

/-!
# Calls

What an application does with a timeline, written down as data, so that it can be played: reports, queries,
subscriptions, and the scripts that callbacks play in turn. Observers go by names the application gives them.
-/

namespace PerfTimeline.Host

/-! ### Arguments -/

/-- An entry, given outright or kept from an earlier report. -/
inductive EntrySource where
  | given (e : Entry)
  | saved (name : String)

/-- A request to observe, given outright or as JSON text. -/
inductive RequestSource where
  | given (r : ObserveRequest)
  | text (s : String)

/-- A series of similar entries, at regular starts. -/
structure Series where
  entryType : EntryType
  name : String
  count : Nat
  start : Float
  step : Float
  duration : Duration
  responseEnd : TimeStamp

/-- The entry with the common details of a series. It starts at zero, so that a resource lasts as long as
its response end says. -/
def Series.template (s : Series) : Entry :=
  match s.entryType with
  | .mark => .mark s.name .zero
  | .measure => .measure s.name .zero s.duration
  | .event => .event s.name .zero s.duration ⟨.zero, .zero, 0⟩
  | .longTask => .longTask s.name .zero s.duration
  | .resource => .resource s.name .zero ⟨.zero, .zero, none, none, none, s.responseEnd, none⟩

/-- Entry number `i` of a series, counted from zero. -/
def Series.entry (s : Series) (i : Nat) : Entry :=
  { s.template with
    name := s.name ++ String.ofList (Json.Numeral.ofNat i).print
    start := ⟨s.start + s.step * i.toUInt64.toFloat⟩ }

/-- One of the two registries: that of the recorder, or one that stands alone. -/
inductive RegistryChoice where
  | main
  | extra
deriving DecidableEq

/-! ### Calls by what they act on

What a call acts on is looked up first. If an argument then names no entry type, the call is `invalidType`: it
fails and changes nothing.
-/

/-- Calls on the recorder. A report can be saved under a name. -/
inductive RecorderCall where
  | report (source : EntrySource) (save : Option String)
  | reportMark (name : String) (start : TimeStamp) (save : Option String)
  | reportMeasure (name : String) (start finish : TimeStamp) (save : Option String)
  | reportEvent (name : String) (start : TimeStamp) (duration : Duration) (timing : EventTiming)
      (save : Option String)
  | reportLongTask (name : String) (start : TimeStamp) (duration : Duration) (save : Option String)
  | reportResource (name : String) (start : TimeStamp) (timing : ResourceTiming) (save : Option String)
  | reportSeries (series : Series)
  | markTime (name : String)
  /-- The entries of a type, behind those given. -/
  | select (t : EntryType) (name : Option String) (behind : List Entry)
  | selectSorted (types : List EntryType) (name : Option String)
  | clear (t : EntryType) (name : Option String)
  | clearAll
  | eventCounts
  | clearCounts
  | resetDropped
  | capacities
  | invalidType (given : String)

/-- Calls on a registry. -/
inductive RegistryCall where
  | register (name : String)
  | unregister (name : String)
  | fanOut (source : EntrySource)
  | size
  | invalidType (given : String)

/-- Calls on an observer. -/
inductive ObserverCall where
  | observeOne (t : EntryType) (options : ObserveOptions)
  | observeMany (types : List EntryType)
  | admits (source : EntrySource)
  | filterAdmits (source : EntrySource)
  | push (source : EntrySource)
  | take (sorted : Bool)
  | disconnect
  | describe
  | invalidType (given : String)

/-- Calls on the handle of an observer, through a module. -/
inductive HandleCall where
  | observe (request : RequestSource)
  | take (sorted asText : Bool)
  | dropped
  | disconnect
  | invalidType (given : String)

/-- Calls on a performance module. -/
inductive ModuleCall where
  | now
  | setClock (time : TimeStamp)
  | advanceClock (millis : Float)
  | forceNow (time : Option TimeStamp)
  | mark (name : String) (start : Option TimeStamp)
  | measure (name : String) (options : MeasureOptions)
  | measureGiven (name : String) (arguments : MeasureArguments)
  | clearMarks (name : Option String)
  | clearMeasures (name : Option String)
  | entries (asText : Bool)
  | entriesByName (name : String) (t : Option EntryType) (asText : Bool)
  | entriesByType (t : EntryType) (asText : Bool)
  | eventCounts
  | clearCounts
  | supported
  | startupTiming
  /-- Whether the module records into the application's recorder. -/
  | sharesRecorder
  | handle (name : String) (call : HandleCall)
  | invalidType (given : String)

/-- Calls on the startup milestones. -/
inductive StartupCall where
  | log (m : Milestone) (time : TimeStamp)
  | get (m : Milestone)
  | reset

/-- A call. Those that make an observer come with the script of its callback, which is played at most
`maxRuns` times. -/
inductive Call where
  | recorder (call : RecorderCall)
  | registry (choice : RegistryChoice) (call : RegistryCall)
  | observer (name : String) (call : ObserverCall)
  | onModule (index : Nat) (call : ModuleCall)
  | startup (call : StartupCall)
  | create (name : String) (limit : Option Nat) (script : List Call) (maxRuns : Nat)
  | createHandle (index : Nat) (name : String) (script : List Call) (maxRuns : Nat)
  | detachedHandle (name : String)
  | cloneHandle (name copy : String)
  | isAttached (name : String)
  | drop (name : String)
  | newModule (clock : TimeStamp) (limit : Option Nat)
  | runTasks
  /-- Give up the recorder and all modules. -/
  | close

instance : Inhabited Call := ⟨.runTasks⟩

/-! ### How often scripts can be played -/

mutual

/-- How often scripts can be played at most because of one call. -/
def Call.runs : Call → Nat
  | .create _ _ script maxRuns => maxRuns * (1 + scriptRuns script)
  | .createHandle _ _ script maxRuns => maxRuns * (1 + scriptRuns script)
  | _ => 0

/-- How often scripts can be played at most because of some calls. -/
def scriptRuns : List Call → Nat
  | [] => 0
  | c :: cs => c.runs + scriptRuns cs

end

/-! ### Outcomes -/

/-- Why a call fails. -/
inductive CallError where
  /-- There is no recorder, or no such module. -/
  | noRecorder
  /-- There is no such observer, or the handle is detached. -/
  | noObserver
  /-- The name is that of an observer without a handle. -/
  | notAHandle
  /-- No entry is saved under the name. -/
  | noEntry
  | rejected (e : TimelineError)
  | unreadable (f : Json.Fault)

/-- What a call answers. -/
inductive Outcome where
  | done
  | failed (e : CallError)
  | entry (e : Entry)
  | entries (es : List Entry)
  | records (rs : List Record)
  | text (s : String)
  | time (t : Option TimeStamp)
  | span (s : Span)
  | flag (b : Bool)
  | count (n : Nat)
  | counts (cs : EventCounts)
  | capacities (cs : Capacities)
  | registrySize (n : Nat)
  | types (ts : List EntryType)
  | timing (ts : List (String × TimeStamp))
  | observer (state : Observer)

/-- Something that happens while a call is in progress. -/
inductive Occurrence where
  /-- The callback of the observer with this label was called. -/
  | callback (label : String)
  /-- A task was handed to the scheduler. -/
  | scheduled (p : Priority)
  /-- A step of the script of this label was played, with this outcome. -/
  | ran (label : String) (outcome : Outcome)
  | traced (e : TraceEvent)

end PerfTimeline.Host
