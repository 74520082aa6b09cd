import PerfTimeline.Host.Call

/-!
# Applications

The state of an application around its timeline: the names of its observers, the scripts of their callbacks,
its modules, its queue of tasks and the log of what happens. A name stands for an observer or for a handle,
which may be detached; either owns the observer behind it.
-/

namespace PerfTimeline.Host

/-- What a name stands for. -/
inductive Handle where
  /-- An observer itself. -/
  | direct (o : ObserverId)
  /-- A handle, and the observer behind it, unless the handle is detached. -/
  | handle (o : Option ObserverId)
deriving DecidableEq

/-- The observer behind a name. -/
def Handle.observer? : Handle → Option ObserverId
  | direct o => some o
  | handle o => o

/-- The callback of an observer. -/
structure Callback where
  label : String
  script : List Call
  /-- How often the script can still be played. -/
  runsLeft : Nat

/-- The state of an application. -/
structure Application where
  /-- Whether the application still has its recorder. -/
  attached : Bool := true
  /-- The registry that stands alone. -/
  extra : Registry := []
  startup : Startup := {}
  modules : List Module := []
  names : List (String × Handle) := []
  /-- The callbacks of all observers, by number. -/
  callbacks : List Callback := []
  saved : List (String × Entry) := []
  tasks : List ObserverId := []
  log : List Occurrence := []

/-- A timeline inside an application. -/
abbrev Session := Timeline Application

/-- Replace the value under a key, or add it. -/
def assign {α : Type} (key : String) (a : α) : List (String × α) → List (String × α)
  | [] => [(key, a)]
  | (k, b) :: rest => if k = key then (key, a) :: rest else (k, b) :: assign key a rest

namespace Session

/-- Change the state of the application. -/
def update (s : Session) (f : Application → Application) : Session := { s with host := f s.host }

/-- Add to the log. -/
def note (s : Session) (x : Occurrence) : Session := s.update fun h => { h with log := h.log ++ [x] }

/-- Keep an entry under a name, if one is given. -/
def save (s : Session) (name : Option String) (e : Entry) : Session :=
  match name with
  | none => s
  | some n => s.update fun h => { h with saved := assign n e h.saved }

/-- Give up what a handle owns. -/
def releaseHandle (s : Session) (h : Handle) : Session := h.observer?.elim s s.releaseObserver

/-- Forget a name; what it owned is given up. -/
def forget (s : Session) (name : String) : Session :=
  match s.host.names.lookup name with
  | none => s
  | some h => (s.update fun a => { a with names := a.names.filter (·.1 != name) }).releaseHandle h

/-- Let a name stand for a handle. What it owned before is given up. -/
def bind (s : Session) (name : String) (handle : Handle) : Session :=
  let bound := s.update fun a => { a with names := assign name handle a.names }
  match s.host.names.lookup name with
  | none => bound
  | some old => bound.releaseHandle old

/-- Remember the callback of the newest observer. -/
def addCallback (s : Session) (callback : Callback) : Session :=
  s.update fun a => { a with callbacks := a.callbacks ++ [callback] }

/-! ### Finding what a call acts on -/

/-- Act on the recorder, which is owned until the call is over. -/
def withRecorder (s : Session) (act : Session → Session × Outcome) : Session × Outcome :=
  if s.host.attached then
    let (s, r) := act s.retain
    (s.release, r)
  else (s, .failed .noRecorder)

/-- Act on a module; its recorder is owned until the call is over. -/
def withModule (s : Session) (index : Nat) (act : Module → Session → Session × Outcome) :
    Session × Outcome :=
  match s.host.modules[index]? with
  | none => (s, .failed .noRecorder)
  | some m =>
    let (s, r) := act m s.retain
    (s.release, r)

/-- Act on an observer, which is owned until the call is over. -/
def withObserver (s : Session) (name : String) (act : ObserverId → Session → Session × Outcome) :
    Session × Outcome :=
  match (s.host.names.lookup name).bind Handle.observer? with
  | none => (s, .failed .noObserver)
  | some o =>
    let (s, r) := act o (s.retainObserver o)
    (s.releaseObserver o, r)

/-- Act on a handle; the observer behind it is owned until the call is over. -/
def withHandle (s : Session) (name : String) (act : Option ObserverId → Session → Session × Outcome) :
    Session × Outcome :=
  match s.host.names.lookup name with
  | none => (s, .failed .noObserver)
  | some (.direct _) => (s, .failed .notAHandle)
  | some (.handle none) => act none s
  | some (.handle (some o)) =>
    let (s, r) := act (some o) (s.retainObserver o)
    (s.releaseObserver o, r)

/-- Act on an entry. -/
def withEntry (s : Session) (source : EntrySource) (act : Entry → Session × Outcome) :
    Session × Outcome :=
  match source with
  | .given e => act e
  | .saved name =>
    match s.host.saved.lookup name with
    | none => (s, .failed .noEntry)
    | some e => act e

end Session

end PerfTimeline.Host
