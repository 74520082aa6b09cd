import PerfTimeline.Host.State
import PerfTimeline.Wire.Record
import PerfTimeline.Wire.Request

/-!
# Performing calls

`Session.perform` carries out one call. The answer to a call is settled before any callback runs inside it,
but callbacks run before the call is over, and the steps of their scripts are performed in the same way.
`hooks` answers the timeline with callbacks that nest at most so deep.
-/

namespace PerfTimeline.Host

namespace Session

variable (hooks : Hooks Application)

/-- Fail because an argument names no entry type. -/
def rejectType (s : Session) (given : String) : Session × Outcome :=
  (s, .failed (.rejected (.invalidEntryType given)))

/-! ### The recorder -/

/-- Answer with an entry that was reported, and save it if asked to. -/
def reported (save : Option String) (next : Session × Entry) : Session × Outcome :=
  (next.1.save save next.2, .entry next.2)

/-- Perform a call on the recorder. -/
def recorderCall (s : Session) : RecorderCall → Session × Outcome
  | .report source save => s.withEntry source fun e => reported save (s.report hooks e)
  | .reportMark name start save => reported save (s.reportMark hooks name start)
  | .reportMeasure name start finish save => reported save (s.reportMeasure hooks name start finish)
  | .reportEvent name start duration timing save =>
    reported save (s.reportEvent hooks name start duration timing)
  | .reportLongTask name start duration save => reported save (s.reportLongTask hooks name start duration)
  | .reportResource name start timing save => reported save (s.reportResource hooks name start timing)
  | .reportSeries series =>
    ((List.range series.count).foldl (fun s i => (s.report hooks (series.entry i)).1) s, .done)
  | .markTime name => (s, .time (s.recorder.markTime? name))
  | .select t name behind => (s, .entries (behind ++ s.recorder.select t name))
  | .selectSorted types name => (s, .entries (s.recorder.selectSorted types name))
  | .clear t name => (s.clear hooks t name, .done)
  | .clearAll => (s.clearAll hooks, .done)
  | .eventCounts => (s, .counts s.recorder.counts)
  | .clearCounts => ({ s with recorder := s.recorder.clearCounts }, .done)
  | .resetDropped => ({ s with recorder := s.recorder.resetDropped }, .done)
  | .capacities => (s, .capacities s.recorder.capacities)
  | .invalidType given => s.rejectType given

/-! ### Registries -/

/-- Change the registry that stands alone. -/
def updateExtra (s : Session) (f : Registry → Registry) : Session :=
  s.update fun a => { a with extra := f a.extra }

/-- Perform a call on the registry of the recorder. -/
def mainRegistryCall (s : Session) : RegistryCall → Session × Outcome
  | .register name => s.withObserver name fun o s => s.withRecorder fun s => (s.register o, .done)
  | .unregister name => s.withObserver name fun o s => s.withRecorder fun s => (s.unregister o, .done)
  | .fanOut source => s.withRecorder fun s => s.withEntry source fun e => (s.fanOut hooks e, .done)
  | .size => s.withRecorder fun s => (s, .registrySize s.registry.length)
  | .invalidType given => s.withRecorder fun s => s.rejectType given

/-- Perform a call on the registry that stands alone. -/
def extraRegistryCall (s : Session) : RegistryCall → Session × Outcome
  | .register name =>
    s.withObserver name fun o s => (s.updateExtra (Registry.register s.isLive o), .done)
  | .unregister name =>
    s.withObserver name fun o s => (s.updateExtra (Registry.unregister s.isLive o), .done)
  | .fanOut source => s.withEntry source fun e =>
    let s := s.updateExtra (Registry.prune s.isLive)
    (s.deliver hooks e s.host.extra, .done)
  | .size => (s, .registrySize s.host.extra.length)
  | .invalidType given => s.rejectType given

/-! ### Observers -/

/-- Answer with something that an observer tells. -/
def ask (s : Session) (o : ObserverId) (f : Observer → Outcome) : Session × Outcome :=
  (s, (s.observer? o).elim (.failed .noObserver) f)

/-- Perform a call on an observer. -/
def observerCall (s : Session) (o : ObserverId) : ObserverCall → Session × Outcome
  | .observeOne t options => (s.observeOne hooks o t options, .done)
  | .observeMany types => (s.observeMany hooks o types, .done)
  | .admits source => s.withEntry source fun e => s.ask o fun x => .flag (x.admits e)
  | .filterAdmits source => s.withEntry source fun e => s.ask o fun x => .flag (x.filter.admits e)
  | .push source => s.withEntry source fun e =>
    let (s, queued) := s.push hooks o e
    (s, .flag queued)
  | .take sorted =>
    let (s, records) := s.take o sorted
    (s, .entries records)
  | .disconnect => (s.disconnect hooks o, .done)
  | .describe => s.ask o .observer
  | .invalidType given => s.rejectType given

/-! ### Modules -/

/-- Answer with records, or with their text. -/
def recordsOutcome (asText : Bool) (rs : List Record) : Outcome :=
  if asText then .text (Record.listToText rs) else .records rs

/-- The request that is meant. -/
def resolveRequest : RequestSource → Json.Read ObserveRequest
  | .given r => .ok r
  | .text t => ObserveRequest.ofText t

/-- Perform a call on a handle. -/
def handleCall (s : Session) (o : Option ObserverId) : HandleCall → Session × Outcome
  | .observe source =>
    match resolveRequest source with
    | .error f => (s, .failed (.unreadable f))
    | .ok request => (Module.observe hooks o request s, .done)
  | .take sorted asText =>
    let (s, rs) := Module.takeRecords o sorted s
    (s, recordsOutcome asText rs)
  | .dropped => (s, .count (Module.droppedCount o s))
  | .disconnect => (Module.disconnect hooks o s, .done)
  | .invalidType given => s.rejectType given

/-- Replace a module. -/
def setModule (s : Session) (index : Nat) (m : Module) : Session :=
  s.update fun a => { a with modules := a.modules.set index m }

/-- Answer with a measure, unless a mark is missing. -/
def measured (s : Session) : Except TimelineError (Session × Span) → Session × Outcome
  | .ok (s, span) => (s, .span span)
  | .error e => (s, .failed (.rejected e))

/-- Perform a call on a module. -/
def moduleCall (index : Nat) (m : Module) (s : Session) : ModuleCall → Session × Outcome
  | .now => (s, .time m.now)
  | .setClock t => (s.setModule index { m with clock := m.clock.set t }, .done)
  | .advanceClock millis => (s.setModule index { m with clock := m.clock.advance millis }, .done)
  | .forceNow t => (s.setModule index { m with forced := t }, .done)
  | .mark name start =>
    let (s, t) := m.mark hooks name start s
    (s, .time t)
  | .measure name options => s.measured (m.measure hooks name options s)
  | .measureGiven name arguments => s.measured (m.measureGiven hooks name arguments s)
  | .clearMarks name => (s.clear hooks .mark name, .done)
  | .clearMeasures name => (s.clear hooks .measure name, .done)
  | .entries asText => (s, recordsOutcome asText (Module.entries s.recorder))
  | .entriesByName name t asText => (s, recordsOutcome asText (Module.entriesByName s.recorder name t))
  | .entriesByType t asText => (s, recordsOutcome asText (Module.entriesByType s.recorder t))
  | .eventCounts => (s, .counts s.recorder.counts)
  | .clearCounts => ({ s with recorder := s.recorder.clearCounts }, .done)
  | .supported => (s, .types EntryType.all)
  | .startupTiming => (s, .timing s.host.startup.timing)
  | .sharesRecorder => (s, .flag s.host.attached)
  | .handle name call => s.withHandle name fun o s => s.handleCall hooks o call
  | .invalidType given => s.rejectType given

/-! ### All calls -/

/-- Perform a call on the startup milestones. -/
def startupCall (s : Session) : StartupCall → Session × Outcome
  | .log m t => (s.update fun a => { a with startup := a.startup.log m t }, .done)
  | .get m => (s, .time (s.host.startup.get? m))
  | .reset => (s.update fun a => { a with startup := {} }, .done)

/-- Run the callbacks of tasks in turn. -/
def runTasks (s : Session) : List ObserverId → Session
  | [] => s
  | o :: os => runTasks (hooks.call o s) os

/-- Give up the recorder and all modules. -/
def close (s : Session) : Session :=
  if s.host.attached then
    (s.update fun a => { a with attached := false, modules := [] }).release
  else s

/-- Perform a call. -/
def perform (s : Session) : Call → Session × Outcome
  | .recorder call => s.withRecorder fun s => s.recorderCall hooks call
  | .registry .main call => s.mainRegistryCall hooks call
  | .registry .extra call => s.extraRegistryCall hooks call
  | .observer name call => s.withObserver name fun o s => s.observerCall hooks o call
  | .onModule index call => s.withModule index fun m s => s.moduleCall hooks index m call
  | .startup call => s.startupCall call
  | .create name limit script maxRuns => s.withRecorder fun s =>
    let (s, o) := s.create (limit.getD Observer.standardLimit) .direct
    ((Session.addCallback s ⟨name, script, maxRuns⟩).bind name (.direct o), .done)
  | .createHandle index name script maxRuns => s.withModule index fun m s =>
    let (s, o) := m.createObserver hooks s
    ((Session.addCallback s ⟨name, script, maxRuns⟩).bind name (.handle (some o)), .done)
  | .detachedHandle name => (s.bind name (.handle none), .done)
  | .cloneHandle name copy => s.withHandle name fun o s =>
    ((o.elim s s.retainObserver).bind copy (.handle o), .done)
  | .isAttached name => s.withHandle name fun o s => (s, .flag o.isSome)
  | .drop name => (s.forget name, .done)
  | .newModule clock limit => s.withRecorder fun s =>
    (s.update fun a =>
      { a with modules := a.modules ++ [⟨⟨clock⟩, none, limit.getD Observer.standardLimit⟩] }, .done)
  | .runTasks =>
    let due := s.host.tasks
    ((s.update fun a => { a with tasks := [] }).runTasks hooks due, .count due.length)
  | .close => (s.close, .done)

/-! ### Callbacks -/

/-- Play a script: perform its calls in turn and log each outcome. -/
def play (label : String) (s : Session) : List Call → Session
  | [] => s
  | c :: cs =>
    let (s, r) := s.perform hooks c
    play label (s.note (.ran label r)) cs

/-- Run the callback of an observer: log it, and play its script if it may still be played. -/
def runCallback (o : ObserverId) (s : Session) : Session :=
  match s.host.callbacks[o]? with
  | none => s
  | some callback =>
    let s := s.note (.callback callback.label)
    match callback.runsLeft with
    | 0 => s
    | left + 1 =>
      let s := s.update fun a =>
        { a with callbacks := a.callbacks.modify o fun c => { c with runsLeft := left } }
      s.play hooks callback.label callback.script

end Session

/-- Add to the log of an application. -/
def Application.note (a : Application) (x : Occurrence) : Application := { a with log := a.log ++ [x] }

/-- How an application answers the timeline, with callbacks nested at most `depth` deep. -/
def hooks (tracing : Bool) (depth : Nat) : Hooks Application where
  trace := fun e a => if tracing then a.note (.traced e) else a
  schedule := fun p o a => { a.note (.scheduled p) with tasks := a.tasks ++ [o] }
  call := fun o s =>
    match depth with
    | 0 => s
    | depth + 1 => Session.runCallback (hooks tracing depth) o s

end PerfTimeline.Host
