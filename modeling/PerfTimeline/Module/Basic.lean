import PerfTimeline.Clock
import PerfTimeline.Entry.Record
import PerfTimeline.Module.Measure
import PerfTimeline.Timeline.Delivery
import PerfTimeline.Timeline.Subscription

/-!
# Performance modules

What one script runtime sees of a timeline: marks and measures against its own clock, the entries that can be
read back, and observers whose callbacks run as idle tasks. Several modules may share a timeline.
-/

namespace PerfTimeline

/-- A performance module. -/
structure Module where
  clock : Clock
  /-- The time shown instead of the clock's, if any. -/
  forced : Option TimeStamp := none
  /-- The queue limit of the observers it makes. -/
  queueLimit : Nat := Observer.standardLimit
deriving DecidableEq

/-- What a measure tells about itself. -/
structure Span where
  start : TimeStamp
  duration : Duration
deriving DecidableEq

namespace Module

variable {ε : Type}

/-- The current time. -/
def now (m : Module) : TimeStamp := m.forced.getD m.clock.now

/-! ### Recording -/

/-- Record a mark, now unless a time is given. Returns its start. -/
def mark (hooks : Hooks ε) (m : Module) (name : String) (start : Option TimeStamp) (tl : Timeline ε) :
    Timeline ε × TimeStamp :=
  let (tl, stored) := tl.reportMark hooks name (start.getD m.now)
  (tl, stored.start)

/-- Record a measure of a given interval. -/
def measureInterval (hooks : Hooks ε) (name : String) (i : Interval) (tl : Timeline ε) :
    Timeline ε × Span :=
  let (tl, stored) := tl.reportMeasure hooks name i.start i.finish
  (tl, ⟨stored.start, stored.duration⟩)

/-- Record a measure. If a mark is missing nothing is recorded. -/
def measure (hooks : Hooks ε) (m : Module) (name : String) (options : MeasureOptions) (tl : Timeline ε) :
    Except TimelineError (Timeline ε × Span) :=
  (options.interval tl.recorder m.now).map fun i => measureInterval hooks name i tl

/-- Record a measure whose times have been given. If a mark is missing nothing is recorded. -/
def measureGiven (hooks : Hooks ε) (m : Module) (name : String) (arguments : MeasureArguments)
    (tl : Timeline ε) : Except TimelineError (Timeline ε × Span) :=
  (arguments.interval tl.recorder m.now).map fun i => measureInterval hooks name i tl

/-! ### Reading back -/

/-- All entries that can be read back, in the order of entries. -/
def entries (r : Recorder) : List Record :=
  (r.selectSorted EntryType.readable none).map Record.ofEntry

/-- The entries of one name that can be read back, possibly of one type only. -/
def entriesByName (r : Recorder) (name : String) (t : Option EntryType) : List Record :=
  let types := match t with
    | none => EntryType.readable
    | some t => if t.isReadable then [t] else []
  (r.selectSorted types (some name)).map Record.ofEntry

/-- The entries of one type, if they can be read back. -/
def entriesByType (r : Recorder) (t : EntryType) : List Record :=
  (r.selectSorted (if t.isReadable then [t] else []) none).map Record.ofEntry

/-! ### Observers -/

/-- Make an observer whose callback runs as an idle task. -/
def createObserver (hooks : Hooks ε) (m : Module) (tl : Timeline ε) : Timeline ε × ObserverId :=
  let (tl, o) := tl.create m.queueLimit .scheduled
  (tl.emit hooks [.observerCreated], o)

/-- Observe what a request asks for; without an observer nothing happens. -/
def observe (hooks : Hooks ε) (o : Option ObserverId) (request : ObserveRequest) (tl : Timeline ε) :
    Timeline ε :=
  o.elim tl fun o => tl.observe hooks o request

/-- Stop an observer; without one nothing happens. -/
def disconnect (hooks : Hooks ε) (o : Option ObserverId) (tl : Timeline ε) : Timeline ε :=
  o.elim tl fun o => tl.disconnect hooks o

/-- Take the records of an observer; without one there are none. -/
def takeRecords (o : Option ObserverId) (sorted : Bool) (tl : Timeline ε) : Timeline ε × List Record :=
  match o with
  | none => (tl, [])
  | some o =>
    let (tl, records) := tl.take o sorted
    (tl, records.map Record.ofEntry)

/-- How many entries an observer dropped; without one it is none. -/
def droppedCount (o : Option ObserverId) (tl : Timeline ε) : Nat :=
  ((o.bind tl.observer?).map (·.dropped)).getD 0

end Module

end PerfTimeline
