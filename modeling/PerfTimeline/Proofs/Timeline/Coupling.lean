import PerfTimeline.Proofs.Timeline.Narrative

/-!
# Two runs side by side

Two timelines may differ in how they keep entries, and so in what is told of storage, while their owners, their
registries and their observers are the same. `Paired` leaves open how the kept and the told on one side relate
to the kept and the told on the other. A `Coupling` is such a relation that the small changes keep, if they are
made on both sides; then every deed keeps it, and is answered the same (`Paired.act`), and so does a run
(`Paired.narrate`).
-/

namespace PerfTimeline

variable {ε : Type}

/-- Nothing is stored or removed there. -/
def Incident.isOfObserver : Incident → Bool
  | traced event => event.isOfObserver || event = .dispatchRequested
  | _ => true

/-- How one recorder, and what was told by then, relates to another. -/
abbrev Recorder.Relation := Recorder → Narrative → Recorder → Narrative → Prop

namespace Timeline

/-- A timeline without its host and without its recorder. -/
def frame (tl : Timeline ε) : Timeline Unit := { tl.bare with recorder := .new (.const none) }

/-- Two timelines that are the same but for their recorders and hosts, which are related by `S`. -/
structure Paired (S : Recorder.Relation) (tl tl' : Timeline Narrative) : Prop where
  related : S tl.recorder tl.host tl'.recorder tl'.host
  frame : tl.frame = tl'.frame

/-- Paired timelines, and the same outcome. -/
def Agree {α : Type} (S : Recorder.Relation) (next next' : Timeline Narrative × α) : Prop :=
  next.1.Paired S next'.1 ∧ next.2 = next'.2

end Timeline

/-- A relation that small changes on both sides keep, as far as they are part of the deeds in `D`. -/
structure Recorder.Coupling (D : Deed → Prop) (S : Recorder.Relation) : Prop where
  sequence {r r' : Recorder} {n n' : Narrative} (h : S r n r' n') : r.sequence = r'.sequence
  incidents {r r' : Recorder} {n n' : Narrative} {incidents : List Incident} (h : S r n r' n')
    (hall : ∀ i ∈ incidents, i.isOfObserver = true) :
    S r (n ++ incidents.map .incident) r' (n' ++ incidents.map .incident)
  record {r r' : Recorder} {n n' : Narrative} {op : Operation} (h : S r n r' n') (hop : D (.operate op)) :
    S (op.onRecorder r) (n ++ ((op.events r).map .traced).map .incident)
      (op.onRecorder r') (n' ++ ((op.events r').map .traced).map .incident)
  /-- A buffered subscription copies the same entries. -/
  select {r r' : Recorder} {n n' : Narrative} {o : ObserverId} {t : EntryType} {options : ObserveOptions}
    (h : S r n r' n') (hop : D (.operate (.observeOne o t options))) (hbuffered : options.buffered = true) :
    r.select t none = r'.select t none
  begun {tl tl' : Timeline Narrative} {d : Deed} (h : tl.Paired S tl') (hd : D d) :
    S tl.recorder (tl.host ++ [.begun d tl.bare]) tl'.recorder (tl'.host ++ [.begun d tl'.bare])
  ended {before before' tl tl' : Timeline Narrative} {d : Deed} (hbefore : before.Paired S before')
    (h : tl.Paired S tl') (hd : D d) (a : Answer) :
    S tl.recorder (tl.host ++ [.ended d before.bare a tl.bare])
      tl'.recorder (tl'.host ++ [.ended d before'.bare a tl'.bare])

/-- Two hosts that tell what happens, and whose callbacks keep timelines paired. -/
structure Hooks.Coupled (S : Recorder.Relation) (hooks hooks' : Hooks Narrative) : Prop where
  tells : hooks.Tells fun _ => True
  tells' : hooks'.Tells fun _ => True
  call {tl tl' : Timeline Narrative} (o : ObserverId) (h : tl.Paired S tl') :
    (hooks.call o tl).Paired S (hooks'.call o tl')

namespace Timeline.Paired

variable {D : Deed → Prop} {S : Recorder.Relation} {hooks hooks' : Hooks Narrative}
  {tl tl' : Timeline Narrative}

theorem slots (h : tl.Paired S tl') : tl.slots = tl'.slots := congrArg (·.slots) h.frame

theorem registry (h : tl.Paired S tl') : tl.registry = tl'.registry := congrArg (·.registry) h.frame

theorem observer? (h : tl.Paired S tl') (o : ObserverId) : tl.observer? o = tl'.observer? o :=
  congrArg (·.observer? o) h.frame

theorem isLive (h : tl.Paired S tl') : tl.isLive = tl'.isLive := congrArg (·.isLive) h.frame

theorem isOpen (h : tl.Paired S tl') : tl.isOpen = tl'.isOpen := congrArg (·.isOpen) h.frame

/-! ### Small changes on both sides -/

/-- The same change of what both sides have in common. -/
theorem map (h : tl.Paired S tl') (f : {ε : Type} → Timeline ε → Timeline ε)
    (hf : ∀ tl : Timeline Narrative,
      (f tl).recorder = tl.recorder ∧ (f tl).host = tl.host ∧ (f tl).frame = f tl.frame) :
    (f tl).Paired S (f tl') := by
  obtain ⟨hrecorder, hhost, hframe⟩ := hf tl
  obtain ⟨hrecorder', hhost', hframe'⟩ := hf tl'
  refine ⟨?_, ?_⟩
  · rw [hrecorder, hhost, hrecorder', hhost']
    exact h.related
  · rw [hframe, hframe', h.frame]

theorem enroll (h : tl.Paired S tl') (o : ObserverId) : (tl.enroll o).Paired S (tl'.enroll o) := by
  unfold Timeline.enroll
  rw [← h.isOpen]
  split
  · exact h.map (·.register o) fun _ => ⟨rfl, rfl, rfl⟩
  · exact h

theorem take (h : tl.Paired S tl') (o : ObserverId) (sorted : Bool) :
    Agree S (tl.take o sorted) (tl'.take o sorted) := by
  unfold Timeline.take
  rw [← h.observer? o]
  cases tl.observer? o with
  | none => exact ⟨h, rfl⟩
  | some s => exact ⟨h.map (·.setObserver o (s.take sorted).1) fun _ => ⟨rfl, rfl, rfl⟩, rfl⟩

theorem onLive (h : tl.Paired S tl') (o : ObserverId)
    {act act' : Timeline Narrative → Timeline Narrative × Answer} (hact : Agree S (act tl) (act' tl')) :
    Agree S (tl.onLive o act) (tl'.onLive o act') := by
  unfold Timeline.onLive
  rw [← h.isLive]
  split
  · exact hact
  · exact ⟨h, rfl⟩

theorem foldl {α : Type} {f f' : Timeline Narrative → α → Timeline Narrative} {xs : List α}
    (hf : ∀ x ∈ xs, ∀ {t t' : Timeline Narrative}, t.Paired S t' → (f t x).Paired S (f' t' x))
    (h : tl.Paired S tl') : (xs.foldl f tl).Paired S (xs.foldl f' tl') := by
  induction xs generalizing tl tl' with
  | nil => exact h
  | cons x xs ih =>
    obtain ⟨hx, hxs⟩ := List.forall_mem_cons.mp hf
    exact ih hxs (hx h)

section

variable (hs : Recorder.Coupling D S) (hc : hooks.Coupled S hooks')

include hs hc

theorem emit (h : tl.Paired S tl') {events : List TraceEvent}
    (hevents : ∀ event ∈ events, (Incident.traced event).isOfObserver = true) :
    (tl.emit hooks events).Paired S (tl'.emit hooks' events) := by
  have hall : ∀ i ∈ events.map Incident.traced, i.isOfObserver = true := List.forall_mem_map.mpr hevents
  rw [emit_of_trace hc.tells.trace, emit_of_trace hc.tells'.trace]
  unfold Timeline.emit
  rw [foldl_trace, foldl_trace]
  exact ⟨hs.incidents h.related hall, h.frame⟩

theorem dispatch (h : tl.Paired S tl') (o : ObserverId) :
    (tl.dispatch hooks o).Paired S (tl'.dispatch hooks' o) := by
  have hasked : (tl.emit hooks [.dispatchRequested]).Paired S (tl'.emit hooks' [.dispatchRequested]) :=
    h.emit hs hc (List.forall_mem_singleton.mpr rfl)
  have hslot : tl'.slots[o]? = tl.slots[o]? := by rw [h.slots]
  unfold Timeline.dispatch
  rw [hc.tells.schedule, hc.tells'.schedule]
  dsimp only [slots_emit]
  rw [hslot]
  cases tl.slots[o]? with
  | none => exact hasked
  | some slot =>
    dsimp only
    cases slot.route with
    | direct => exact hc.call o hasked
    | scheduled =>
      have hone : ∀ i ∈ [Incident.scheduled .idle o], i.isOfObserver = true :=
        List.forall_mem_singleton.mpr rfl
      exact ⟨hs.incidents hasked.related hone, hasked.frame⟩

theorem react (h : tl.Paired S tl') (o : ObserverId) {s : Observer} {next : Observer × Observer.Reaction}
    (hnext : s.Responds next) :
    (tl.react hooks o next).Paired S (tl'.react hooks' o next) := by
  have hset : (tl.setObserver o next.1).Paired S (tl'.setObserver o next.1) :=
    h.map (·.setObserver o next.1) fun _ => ⟨rfl, rfl, rfl⟩
  have htold : ((tl.setObserver o next.1).emit hooks next.2.events).Paired S
      ((tl'.setObserver o next.1).emit hooks' next.2.events) :=
    hset.emit hs hc fun event hevent => by simp [Incident.isOfObserver, hnext.isOfObserver event hevent]
  unfold Timeline.react
  dsimp only
  split
  · exact htold.dispatch hs hc o
  · exact htold

/-! ### Operations on observers -/

theorem push (h : tl.Paired S tl') (o : ObserverId) (e : Entry) :
    Agree S (tl.push hooks o e) (tl'.push hooks' o e) := by
  unfold Timeline.push
  rw [← h.observer? o]
  cases tl.observer? o with
  | none => exact ⟨h, rfl⟩
  | some s => exact ⟨h.react hs hc o (.push e), rfl⟩

theorem deliver (h : tl.Paired S tl') (e : Entry) (os : List ObserverId) :
    (tl.deliver hooks e os).Paired S (tl'.deliver hooks' e os) := by
  have hretained : (os.foldl retainObserver tl).Paired S (os.foldl retainObserver tl') :=
    foldl (fun o _ _ _ h => h.map (·.retainObserver o) fun _ => ⟨rfl, rfl, rfl⟩) h
  refine foldl (fun o _ t t' h => ?_) hretained
  exact (h.push hs hc o e).1.map (·.releaseObserver o) fun _ => ⟨rfl, rfl, rfl⟩

theorem fanOut (h : tl.Paired S tl') (e : Entry) :
    (tl.fanOut hooks e).Paired S (tl'.fanOut hooks' e) := by
  have hpruned : tl.prune.Paired S tl'.prune := h.map Timeline.prune fun _ => ⟨rfl, rfl, rfl⟩
  unfold Timeline.fanOut
  dsimp only
  rw [← hpruned.registry]
  exact hpruned.deliver hs hc e _

theorem observeOne (h : tl.Paired S tl') {o : ObserverId} {t : EntryType} {options : ObserveOptions}
    (hd : D (.operate (.observeOne o t options))) :
    (tl.observeOne hooks o t options).Paired S (tl'.observeOne hooks' o t options) := by
  unfold Timeline.observeOne
  rw [← h.observer? o]
  cases tl.observer? o with
  | none => exact h
  | some s =>
    -- Unless the subscription is buffered, what is stored makes no difference to it.
    have hcopied : s.observeOne t options (some (tl.recorder.select t none)) =
        s.observeOne t options (some (tl'.recorder.select t none)) := by
      cases hbuffered : options.buffered with
      | true => rw [hs.select h.related hd hbuffered]
      | false => simp [Observer.observeOne, hbuffered]
    have henrolled : (tl.enroll o).retain.Paired S (tl'.enroll o).retain :=
      (h.enroll o).map Timeline.retain fun _ => ⟨rfl, rfl, rfl⟩
    dsimp only
    rw [← h.isOpen]
    split
    · exact h
    · split
      · rw [hcopied]
        exact (henrolled.react hs hc o (.observeOne ..)).map Timeline.release fun _ => ⟨rfl, rfl, rfl⟩
      · exact h.react hs hc o (.observeOne ..)

theorem observeMany (h : tl.Paired S tl') (o : ObserverId) (types : List EntryType) :
    (tl.observeMany hooks o types).Paired S (tl'.observeMany hooks' o types) := by
  unfold Timeline.observeMany
  rw [← h.observer? o]
  cases tl.observer? o with
  | none => exact h
  | some s =>
    dsimp only
    split
    · exact h
    · exact (h.enroll o).react hs hc o (.observeMany types)

theorem disconnect (h : tl.Paired S tl') (o : ObserverId) :
    (tl.disconnect hooks o).Paired S (tl'.disconnect hooks' o) := by
  unfold Timeline.disconnect
  rw [← h.observer? o]
  cases tl.observer? o with
  | none => exact h
  | some s =>
    dsimp only
    rw [← h.isOpen]
    split
    · exact h
    · refine react hs hc ?_ o .disconnect
      split
      · exact h.map (·.unregister o) fun _ => ⟨rfl, rfl, rfl⟩
      · exact h

/-! ### Deeds -/

theorem record (h : tl.Paired S tl') {op : Operation} (hd : D (.operate op)) :
    (tl.record hooks (op.onRecorder tl.recorder, op.events tl.recorder)).Paired S
      (tl'.record hooks' (op.onRecorder tl'.recorder, op.events tl'.recorder)) := by
  rw [record_of_trace hc.tells.trace, record_of_trace hc.tells'.trace, record_scribe, record_scribe]
  exact ⟨hs.record h.related hd, h.frame⟩

theorem report {e : Entry} (hstored : Agree S (tl.store hooks e) (tl'.store hooks' e)) :
    Agree S (tl.report hooks e) (tl'.report hooks' e) := by
  -- Under the same number it is the same entry that is offered.
  obtain ⟨hnext, hnumber⟩ := hstored
  refine ⟨?_, hnumber⟩
  unfold Timeline.report
  dsimp only
  rw [← hnumber]
  exact hnext.fanOut hs hc _

/-- The same is done on both sides, and answered the same. -/
theorem act (h : tl.Paired S tl') {d : Deed} (hd : D d) :
    Agree S (tl.act hooks d) (tl'.act hooks' d) := by
  have hnumber : tl.recorder.sequence + 1 = tl'.recorder.sequence + 1 :=
    congrArg (· + 1) (hs.sequence h.related)
  cases d with
  | offer os e =>
    refine ⟨?_, rfl⟩
    show (tl.deliver hooks e _).Paired S (tl'.deliver hooks' e _)
    rw [← h.isLive]
    exact h.deliver hs hc e _
  | operate op =>
    have hrecorded := h.record hs hc hd
    cases op with
    | report e =>
      obtain ⟨hnext, hstored⟩ := report hs hc ⟨hrecorded, congrArg e.withSequence hnumber⟩
      exact ⟨hnext, congrArg Answer.stored hstored⟩
    | reportEvent name start duration timing =>
      let e : Entry := .event name start duration timing
      have hcounted : Agree S (store hooks e { tl with recorder := tl.recorder.countEvent name })
          (store hooks' e { tl' with recorder := tl'.recorder.countEvent name }) :=
        ⟨hrecorded, congrArg e.withSequence hnumber⟩
      obtain ⟨hnext, hstored⟩ := report hs hc hcounted
      exact ⟨hnext, congrArg Answer.stored hstored⟩
    | clear t name => exact ⟨hrecorded, rfl⟩
    | clearAll => exact ⟨hrecorded, rfl⟩
    | resetDropped => exact ⟨hrecorded, rfl⟩
    | clearCounts => exact ⟨hrecorded, rfl⟩
    | create limit route =>
      refine ⟨h.map (fun t => (t.create limit route).1) fun _ => ⟨rfl, rfl, rfl⟩, ?_⟩
      exact congrArg (fun slots : List Slot => Answer.made slots.length) h.slots
    | clone o => exact h.onLive o ⟨h.map (·.retainObserver o) fun _ => ⟨rfl, rfl, rfl⟩, rfl⟩
    | drop o => exact ⟨h.map (·.releaseObserver o) fun _ => ⟨rfl, rfl, rfl⟩, rfl⟩
    | observeOne o t options => exact h.onLive o ⟨h.observeOne hs hc hd, rfl⟩
    | observeMany o types => exact h.onLive o ⟨h.observeMany hs hc o types, rfl⟩
    | take o sorted =>
      obtain ⟨htaken, hrecords⟩ := h.take o sorted
      exact h.onLive o ⟨htaken, congrArg Answer.records hrecords⟩
    | disconnect o => exact h.onLive o ⟨h.disconnect hs hc o, rfl⟩
    | push o e =>
      obtain ⟨hpushed, hqueued⟩ := h.push hs hc o e
      exact h.onLive o ⟨hpushed, congrArg Answer.queued hqueued⟩
    | register o => exact h.onLive o ⟨h.map (·.register o) fun _ => ⟨rfl, rfl, rfl⟩, rfl⟩
    | unregister o => exact h.onLive o ⟨h.map (·.unregister o) fun _ => ⟨rfl, rfl, rfl⟩, rfl⟩
    | fanOut e => exact ⟨h.fanOut hs hc e, rfl⟩
    | close => exact ⟨h.map Timeline.release fun _ => ⟨rfl, rfl, rfl⟩, rfl⟩

/-! ### Runs -/

theorem tell (h : tl.Paired S tl') {d : Deed} (hd : D d) :
    (tl.tell hooks d).Paired S (tl'.tell hooks' d) := by
  have hbegun : (tl.note (.begun d tl.bare)).Paired S (tl'.note (.begun d tl'.bare)) :=
    ⟨hs.begun h hd, h.frame⟩
  obtain ⟨hnext, hanswer⟩ := hbegun.act hs hc hd
  have hended := hs.ended h hnext hd (((tl.note (.begun d tl.bare)).act hooks d).2)
  refine ⟨?_, hnext.frame⟩
  unfold Timeline.tell
  dsimp only
  rw [← hanswer]
  exact hended

theorem narrate (h : tl.Paired S tl') {ds : List Deed} (hds : ∀ d ∈ ds, D d) :
    (tl.narrate hooks ds).Paired S (tl'.narrate hooks' ds) :=
  foldl (fun d hd _ _ h => h.tell hs hc (hds d hd)) h

end

end Timeline.Paired

/-- Callbacks that follow plans keep timelines paired, if the plans do when nothing but that is known of the
callbacks inside. -/
theorem Hooks.Coupled.narrated {D : Deed → Prop} {S : Recorder.Relation} (hs : Recorder.Coupling D S)
    {plan plan' : Plan}
    (hplan : ∀ {hooks hooks' : Hooks Narrative}, hooks.Coupled S hooks' → ∀ (o : ObserverId)
      {tl tl' : Timeline Narrative}, tl.Paired S tl' →
        (tl.narrate hooks (plan o tl)).Paired S (tl'.narrate hooks' (plan' o tl')))
    (depth : Nat) : (Hooks.narrated plan depth).Coupled S (.narrated plan' depth) := by
  have hasked {tl tl' : Timeline Narrative} (o : ObserverId) (h : tl.Paired S tl') :
      (Hooks.scribe.call o tl).Paired S (Hooks.scribe.call o tl') := by
    have hone : ∀ i ∈ [Incident.called o], i.isOfObserver = true := List.forall_mem_singleton.mpr rfl
    exact ⟨hs.incidents h.related hone, h.frame⟩
  have htells (plan : Plan) (depth : Nat) : (Hooks.narrated plan depth).Tells fun _ => True := by
    cases depth <;> exact ⟨rfl, rfl, fun _ _ _ => trivial⟩
  induction depth with
  | zero => exact ⟨htells plan 0, htells plan' 0, hasked⟩
  | succ depth ih => exact ⟨htells plan _, htells plan' _, fun o h => hplan ih o (hasked o h)⟩

end PerfTimeline
