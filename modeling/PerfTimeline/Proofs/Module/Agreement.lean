import PerfTimeline.Proofs.Delivery.Hearing
import PerfTimeline.Proofs.Timeline.Merge

/-!
# Observing and reading back

There are two ways to learn of marks and measures: to observe them, and to read them back from the timeline.
A program that does both is told the same, however it spreads its drains over the run and whatever else is
recorded from within callbacks. Only the order may differ, and in sorted order there is one way to list the
entries, since no two of them have the same number.
-/

namespace PerfTimeline

/-- What a program does: it records through modules, and drains the observer it is interested in. -/
inductive RecordingCall where
  | mark (m : Module) (name : String) (start : Option TimeStamp)
  | measure (m : Module) (name : String) (options : MeasureOptions)
  | measureGiven (m : Module) (name : String) (arguments : MeasureArguments)
  | drain (sorted : Bool)

namespace RecordingCall

variable (hooks : Hooks Drains) (o : ObserverId)

/-- Make a call. A measure that fails records nothing, and what is drained from `o` is kept by the host. -/
def make (tl : Timeline Drains) : RecordingCall → Timeline Drains
  | mark m name start => (m.mark hooks name start tl).1
  | measure m name options => ((m.measure hooks name options tl).map Prod.fst).toOption.getD tl
  | measureGiven m name arguments =>
    ((m.measureGiven hooks name arguments tl).map Prod.fst).toOption.getD tl
  | drain sorted =>
    let (tl, records) := tl.take o sorted
    { tl with host := tl.host ++ [records] }

def makeAll (tl : Timeline Drains) (calls : List RecordingCall) : Timeline Drains := calls.foldl (make hooks o) tl

end RecordingCall

/-- A host whose callbacks make calls themselves, as planned and nested at most so deep. -/
def Hooks.recording (o : ObserverId) (plan : ObserverId → Timeline Drains → List RecordingCall) :
    Nat → Hooks Drains
  | 0 => { trace := fun _ host => host, schedule := fun _ _ host => host, call := fun _ tl => tl }
  | depth + 1 =>
    { trace := fun _ host => host
      schedule := fun _ _ host => host
      call := fun p tl => RecordingCall.makeAll (Hooks.recording o plan depth) o tl (plan p tl) }

namespace Timeline

variable {hooks : Hooks Drains} {o : ObserverId} {tl : Timeline Drains}

/-! ### Calls -/

theorem grows_measureInterval (h : hooks.Follow o) (hears : tl.Hears o) (name : String)
    (interval : Except TimelineError Interval) :
    Grows o 0 [] tl
      (((interval.map fun i => Module.measureInterval hooks name i tl).map Prod.fst).toOption.getD tl) := by
  cases interval with
  | error e => exact .refl hears
  | ok i =>
    have hmeasure : (Entry.measure name i.start (i.finish - i.start)).entryType ∈ EntryType.readable :=
      List.mem_cons_of_mem _ List.mem_cons_self
    exact grows_report h hears hmeasure

theorem grows_drain (hears : tl.Hears o) (sorted : Bool) :
    Grows o 0 [] tl (RecordingCall.make hooks o tl (.drain sorted)) := by
  obtain ⟨s, hs, -⟩ := hears.state
  have htake : RecordingCall.make hooks o tl (.drain sorted) =
      { tl.updateObserver o fun s => (s.take sorted).1 with host := tl.host ++ [(s.take sorted).2] } := by
    rw [← setObserver_eq hs fun s => (s.take sorted).1]
    simp only [RecordingCall.make, take, hs]
    rfl
  have hdrained : (tl.updateObserver o fun s => (s.take sorted).1).Hears o := by
    refine hears.updateObserver ?_ ?_
    · intro s hco hm
      exact ⟨Observer.coherent_take hco sorted, hm⟩
    · intro s _ hd
      exact ⟨(Observer.isDisconnected_take s sorted).trans hd, rfl, rfl⟩
  have hobs : (tl.updateObserver o fun s => (s.take sorted).1).observer? o = some (s.take sorted).1 := by
    rw [observer?_updateObserver, hs]
    simp
  rw [htake]
  refine ⟨⟨hdrained.sound.with_host _, hdrained.reachable, hdrained.unbounded, hdrained.owned,
    hdrained.registered, hdrained.state⟩, ownersOf_updateObserver tl o o fun s => (s.take sorted).1, ?_⟩
  intro hdropped
  refine ⟨?_, [], ?_, ?_⟩
  · have hnone : (((tl.updateObserver o fun s => (s.take sorted).1).observer? o).map (·.dropped)).getD 0 =
        0 := hdropped
    rw [hobs] at hnone
    have hsame : s.dropped = 0 := hnone
    simpa [droppedBy, Module.droppedCount, hs] using hsame
  · rw [List.append_nil]
    exact .refl _
  · -- What the queue held has moved to the drains.
    have hdelivered : delivered o { tl.updateObserver o fun s => (s.take sorted).1 with
        host := tl.host ++ [(s.take sorted).2] } = tl.host.flatten ++ (s.take sorted).2 := by
      show (tl.host ++ [(s.take sorted).2]).flatten ++
        (tl.updateObserver o fun s => (s.take sorted).1).pending o = _
      rw [pending_eq hobs, List.flatten_append]
      simp [Observer.take]
    rw [hdelivered, delivered, pending_eq hs, List.append_nil, List.append_nil]
    exact (Observer.take_perm s sorted).append_left _

/-- Every call keeps what is delivered in step with what is stored. -/
theorem grows_make (h : hooks.Follow o) (hears : tl.Hears o) (c : RecordingCall) :
    Grows o 0 [] tl (c.make hooks o tl) := by
  cases c with
  | mark m name start =>
    have hmark : (Entry.mark name (start.getD m.now)).entryType ∈ EntryType.readable := List.mem_cons_self
    exact grows_report h hears hmark
  | measure m name options => exact grows_measureInterval h hears name _
  | measureGiven m name arguments => exact grows_measureInterval h hears name _
  | drain sorted => exact grows_drain hears sorted

theorem grows_makeAll (h : hooks.Follow o) (hears : tl.Hears o) (calls : List RecordingCall) :
    Grows o 0 [] tl (RecordingCall.makeAll hooks o tl calls) := by
  induction calls generalizing tl with
  | nil => exact .refl hears
  | cons c calls ih =>
    have hfirst := grows_make h hears c
    exact hfirst.trans (ih hfirst.hears)

theorem follow_recording (o : ObserverId) (plan : ObserverId → Timeline Drains → List RecordingCall)
    (depth : Nat) : (Hooks.recording o plan depth).Follow o := by
  induction depth with
  | zero => exact ⟨fun _ _ => rfl, fun _ _ _ => rfl, fun _ _ hears => .refl hears⟩
  | succ depth ih =>
    exact ⟨fun _ _ => rfl, fun _ _ _ => rfl, fun p tl hears => grows_makeAll ih hears (plan p tl)⟩

/-! ### From the subscription on -/

/-- A new observer is registered and observes marks and measures. Nobody has been called back yet. -/
def subscribed (tl : Timeline Drains) (limit : Nat) (route : Route) : Timeline Drains :=
  ((tl.create limit route).1.register tl.slots.length).updateObserver tl.slots.length fun s =>
    (s.observeMany EntryType.readable).1

theorem observer?_subscribed (tl : Timeline Drains) (limit : Nat) (route : Route) :
    (tl.subscribed limit route).observer? tl.slots.length =
      some ({ limit : Observer }.observeMany EntryType.readable).1 := by
  have hmade : (tl.create limit route).1.observer? tl.slots.length = some { limit } :=
    observer?_create tl limit route
  rw [subscribed, observer?_updateObserver]
  show ((tl.create limit route).1.observer? tl.slots.length).map _ = _
  rw [hmade]
  simp

theorem hears_subscribed {capacities : Capacities} (hsound : tl.Sound)
    (hreach : tl.recorder.Reachable capacities)
    (hunbounded : ∀ t ∈ EntryType.readable, (tl.recorder.buffer t).capacity = none) (limit : Nat)
    (route : Route) : (tl.subscribed limit route).Hears tl.slots.length := by
  have hlt : tl.slots.length < (tl.create limit route).1.slots.length := by simp [create]
  refine ⟨((hsound.create limit route).register hlt).updateObserver ?_, ⟨capacities, hreach⟩,
    hunbounded, ?_, Registry.mem_register_self .., ?_⟩
  · intro s hco hm
    exact ⟨Observer.coherent_observeMany hco _, Observer.markedUpTo_observeMany hm _⟩
  · rw [subscribed, ownersOf_updateObserver]
    show 0 < (tl.create limit route).1.ownersOf tl.slots.length
    simp [ownersOf, create]
  · exact ⟨_, observer?_subscribed tl limit route, rfl, rfl,
      Observer.admits_observeMany rfl EntryType.readable⟩

theorem delivered_subscribed (hhost : tl.host = []) (limit : Nat) (route : Route) :
    (tl.subscribed limit route).delivered tl.slots.length = [] := by
  rw [delivered, pending_eq (observer?_subscribed tl limit route)]
  show tl.host.flatten ++ [] = []
  rw [hhost]
  rfl

/-- The new observer is told of its subscription, and may be called back for it. -/
theorem grows_observe (h : hooks.Follow tl.slots.length) {limit : Nat} {route : Route}
    (hears : (tl.subscribed limit route).Hears tl.slots.length) (hopen : tl.isOpen = true) :
    Grows tl.slots.length 0 [] (tl.subscribed limit route)
      (Module.observe hooks (some tl.slots.length) { entryTypes := some [.mark, .measure] }
        (tl.create limit route).1) := by
  let made := (tl.create limit route).1
  have hobs : made.observer? tl.slots.length = some { limit } := observer?_create tl limit route
  have hset : tl.subscribed limit route = (made.register tl.slots.length).setObserver tl.slots.length
      ({ limit : Observer }.observeMany EntryType.readable).1 :=
    (setObserver_eq (show (made.register tl.slots.length).observer? tl.slots.length = _ from hobs) fun s =>
      (s.observeMany EntryType.readable).1).symm
  have hobserve : Module.observe hooks (some tl.slots.length) { entryTypes := some [.mark, .measure] } made =
      (made.register tl.slots.length).react hooks tl.slots.length
        ({ limit : Observer }.observeMany EntryType.readable) := by
    have henroll : made.enroll tl.slots.length = made.register tl.slots.length := if_pos hopen
    show made.observeMany hooks tl.slots.length EntryType.readable = _
    simp only [observeMany, hobs, henroll]
    rfl
  rw [hset] at hears ⊢
  rw [hobserve]
  exact grows_react h _ _ hears

/-- What is stored and what was delivered from an empty start on are the same up to order, and in sorted order
they are equal. -/
theorem Grows.sort_delivered {start final : Timeline Drains} (h : Grows o 0 [] start final)
    (hdropped : final.droppedBy o = 0) (hstored : start.stored = []) (hdelivered : start.delivered o = []) :
    Entry.sort (final.delivered o) = Entry.sort final.stored := by
  obtain ⟨-, es, hs, hd⟩ := h.gains hdropped
  rw [hstored] at hs
  rw [hdelivered] at hd
  have hsame : final.stored.Perm (final.delivered o) := hs.trans hd.symm
  obtain ⟨_, hreach⟩ := h.hears.reachable
  have hnumbers : (final.stored.map Entry.sequence).Nodup :=
    (hreach.apart none).nodup_number (show EntryType.readable.Nodup by decide)
  exact (Entry.sort_eq_of_perm hsame hnumbers).symm

theorem Hears.take_sorted (h : tl.Hears o) : (tl.take o true).2 = Entry.sort (tl.pending o) := by
  obtain ⟨s, hs, -⟩ := h.state
  rw [pending_eq hs]
  simp only [take, hs]
  rfl

/-- On any timeline that operations lead to, as long as marks and measures are kept without bound and none
are stored yet, an observer is made and observes marks and measures. From then on a program records marks and
measures, directly and from within callbacks, and drains the observer as often as it likes. If the observer
has dropped nothing, what it gave out and still holds is, in sorted order, what a query for marks and measures
returns. If nothing has been drained yet, one sorted drain returns record for record what is read back. -/
theorem observed_eq_read_back {capacities : Capacities} (hsound : tl.Sound)
    (hreach : tl.recorder.Reachable capacities) (hopen : tl.isOpen = true)
    (hunbounded : ∀ t ∈ [EntryType.mark, .measure], (tl.recorder.buffer t).capacity = none)
    (hempty : ∀ t ∈ [EntryType.mark, .measure], tl.recorder.select t none = []) (hhost : tl.host = [])
    (limit : Nat) (route : Route) (plan : ObserverId → Timeline Drains → List RecordingCall) (depth : Nat)
    (calls : List RecordingCall) :
    let o := tl.slots.length
    let hooks := Hooks.recording o plan depth
    let made := (tl.create limit route).1
    let observed := Module.observe hooks (some o) { entryTypes := some [.mark, .measure] } made
    let final := RecordingCall.makeAll hooks o observed calls
    Module.droppedCount (some o) final = 0 →
      Entry.sort (final.host.flatten ++ final.pending o) =
        final.recorder.selectSorted [.mark, .measure] none ∧
      (final.host.flatten = [] →
        (Module.takeRecords (some o) true final).2 = Module.entries final.recorder) := by
  intro o hooks made observed final hdropped
  have hfollow : hooks.Follow o := follow_recording o plan depth
  have hstart : (tl.subscribed limit route).Hears o := hears_subscribed hsound hreach hunbounded limit route
  have hobserved : Grows o 0 [] (tl.subscribed limit route) observed := grows_observe hfollow hstart hopen
  have hgrows : Grows o 0 [] (tl.subscribed limit route) final :=
    hobserved.trans (grows_makeAll hfollow hobserved.hears calls)
  -- both sides start empty
  have hnone : (tl.subscribed limit route).stored = [] := List.flatMap_eq_nil_iff.mpr hempty
  have hsorted := hgrows.sort_delivered hdropped hnone (delivered_subscribed hhost limit route)
  refine ⟨hsorted, ?_⟩
  intro hundrained
  have hpending : final.delivered o = final.pending o := by
    rw [delivered, hundrained]
    rfl
  show (final.take o true).2.map Record.ofEntry = _
  rw [hgrows.hears.take_sorted, ← hpending, hsorted]
  rfl

/-- The first mark is answered by another observer with a measure up to now, the second one comes before it in
time, and a measure of a missing mark fails. One drain is in the middle. -/
theorem observed_eq_read_back_three_entries :
    let m : Module := ⟨⟨⟨9⟩⟩, none, Observer.standardLimit⟩
    let plan : ObserverId → Timeline Drains → List RecordingCall := fun p tl =>
      if p = 0 ∧ tl.recorder.sequence = 1 then [.measure m "up to now" { startMark := some "late" }] else []
    let tl := (new .standard []).run (Hooks.recording 1 plan 0)
      [.create 9 .direct, .observeMany 0 [.mark]]
    let calls := [.mark m "late" (some ⟨2⟩), .drain false, .mark m "early" (some ⟨1⟩),
      .measure m "none" { startMark := some "missing" }]
    let hooks := Hooks.recording 1 plan 1
    let observed := Module.observe hooks (some 1) { entryTypes := some [.mark, .measure] }
      (tl.create 3 .scheduled).1
    let final := RecordingCall.makeAll hooks 1 observed calls
    tl.Sound ∧ tl.recorder.Reachable .standard ∧ Module.droppedCount (some 1) final = 0 ∧
      final.host.map (List.map Entry.name) = [["up to now", "late"]] ∧
      (final.pending 1).map Entry.name = ["early"] ∧
      Entry.sort (final.host.flatten ++ final.pending 1) =
        final.recorder.selectSorted [.mark, .measure] none := by
  intro m plan tl calls hooks observed final
  have hpassive : (Hooks.recording 1 plan 0).Passive := fun _ tl => ⟨tl.host, rfl⟩
  have hsound : tl.Sound := (sound_new .standard []).run hpassive _
  have hreach : tl.recorder.Reachable .standard :=
    reachable_run (hpassive.keeps _) _ Recorder.Reachable.new
  have hdropped : Module.droppedCount (some 1) final = 0 := by decide +kernel
  have hread := observed_eq_read_back hsound hreach rfl (by decide) (by decide) rfl 3 .scheduled plan 1
    calls hdropped
  exact ⟨hsound, hreach, hdropped, by decide +kernel, by decide +kernel, hread.1⟩

end Timeline

end PerfTimeline
