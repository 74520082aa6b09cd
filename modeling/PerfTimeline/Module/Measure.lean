import PerfTimeline.Error
import PerfTimeline.Retention.Recorder

/-!
# Resolving measures

A measure is given by times, marks and a duration, each of them optional. `MeasureOptions.interval` settles
its start and its end where everything may be missing; `MeasureArguments.interval` does so where the times
have been given already and marks override them. A mark that is consulted must be stored.
-/

namespace PerfTimeline

/-- The optional arguments of a measure. -/
structure MeasureOptions where
  startTime : Option TimeStamp := none
  finishTime : Option TimeStamp := none
  duration : Option Duration := none
  startMark : Option String := none
  finishMark : Option String := none
deriving DecidableEq

/-- The arguments of a measure whose times have been given. -/
structure MeasureArguments where
  startTime : TimeStamp
  finishTime : TimeStamp
  duration : Option Duration := none
  startMark : Option String := none
  finishMark : Option String := none
deriving DecidableEq

/-- The start and the end of a measure. -/
structure Interval where
  start : TimeStamp
  finish : TimeStamp
deriving DecidableEq

/-- The time of a mark, which must be stored. -/
def Recorder.markTime (r : Recorder) (name : String) : Except TimelineError TimeStamp :=
  match r.markTime? name with
  | some t => .ok t
  | none => .error (.markNotFound name)

namespace MeasureOptions

/-- The start: the time, else the mark, else the time origin. -/
def start (m : MeasureOptions) (r : Recorder) : Except TimelineError TimeStamp :=
  match m.startTime, m.startMark with
  | some t, _ => .ok t
  | none, some mark => r.markTime mark
  | none, none => .ok .zero

/-- The end: the time, else the start and the duration, else the mark, else now. -/
def finish (m : MeasureOptions) (r : Recorder) (now start : TimeStamp) : Except TimelineError TimeStamp :=
  match m.finishTime, m.duration, m.finishMark with
  | some t, _, _ => .ok t
  | none, some d, _ => .ok (start + d)
  | none, none, some mark => r.markTime mark
  | none, none, none => .ok now

/-- The interval of the measure. -/
def interval (m : MeasureOptions) (r : Recorder) (now : TimeStamp) : Except TimelineError Interval := do
  let start ← m.start r
  let finish ← m.finish r now start
  return ⟨start, finish⟩

end MeasureOptions

namespace MeasureArguments

/-- The start: the mark, else the time. -/
def start (m : MeasureArguments) (r : Recorder) : Except TimelineError TimeStamp :=
  match m.startMark with
  | some mark => r.markTime mark
  | none => .ok m.startTime

/-- The end: the mark, else the start and the duration, else the time, or now if it is before the start. -/
def finish (m : MeasureArguments) (r : Recorder) (now start : TimeStamp) :
    Except TimelineError TimeStamp :=
  match m.finishMark, m.duration with
  | some mark, _ => r.markTime mark
  | none, some d => .ok (start + d)
  | none, none => .ok (if m.finishTime < start then now else m.finishTime)

/-- The interval of the measure. -/
def interval (m : MeasureArguments) (r : Recorder) (now : TimeStamp) : Except TimelineError Interval := do
  let start ← m.start r
  let finish ← m.finish r now start
  return ⟨start, finish⟩

end MeasureArguments

end PerfTimeline
