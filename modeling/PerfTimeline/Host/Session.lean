import PerfTimeline.Host.Perform

/-!
# Sessions

A session plays calls on a new timeline and tells, for each call, its outcome, what happened in the course of
it, and how things stand afterwards.
-/

namespace PerfTimeline.Host

/-- How a session is set up. -/
structure Settings where
  capacities : Capacities := .standard
  clock : TimeStamp := .zero
  queueLimit : Nat := Observer.standardLimit
  /-- Whether trace events are logged. -/
  tracing : Bool := false
  /-- Whether the recorder is that of the whole process, which has standard capacities and always an owner. -/
  processWide : Bool := false

/-- How things stand. What concerns the recorder is missing once the application has given it up. -/
structure View where
  sizes : Option (List Nat)
  dropped : Option (List Nat)
  registry : Option Nat
  extra : Nat
  /-- The names in use, with the observers behind them. -/
  observers : List (String × Option Observer)
  tasks : Nat

/-- What a session tells about one call. -/
structure Report where
  outcome : Outcome
  log : List Occurrence
  view : View

namespace Session

/-- The timeline and the application at the start. -/
def start (settings : Settings) : Session where
  recorder := .new (if settings.processWide then .standard else settings.capacities)
  owners := if settings.processWide then 2 else 1
  host := { modules := [⟨⟨settings.clock⟩, none, settings.queueLimit⟩] }

/-- How things stand now. -/
def view (s : Session) : View :=
  let recorded {α : Type} (a : α) : Option α := if s.host.attached then some a else none
  { sizes := recorded (EntryType.all.map s.recorder.size)
    dropped := recorded (EntryType.all.map s.recorder.dropped)
    registry := recorded s.registry.length
    extra := s.host.extra.length
    observers := s.host.names.map fun (name, h) => (name, h.observer?.bind s.observer?)
    tasks := s.host.tasks.length }

/-- Perform calls one after another, and report on each. -/
def run (hooks : Hooks Application) (s : Session) : List Call → List Report
  | [] => []
  | c :: cs =>
    let (s, outcome) := (s.update fun a => { a with log := [] }).perform hooks c
    ⟨outcome, s.host.log, s.view⟩ :: run hooks s cs

end Session

/-- Play calls on a new timeline. Each callback inside another one uses up a run of the outer one's script,
so callbacks nest at most one deeper than scripts can be played in all. -/
def play (settings : Settings) (calls : List Call) : List Report :=
  (Session.start settings).run (hooks settings.tracing (scriptRuns calls + 1)) calls

end PerfTimeline.Host
