import PerfTimeline.Proofs.Delivery.Interleaved

/-!
# Callbacks that use the timeline again

A callback may report, subscribe, drain or disconnect in the middle of a report, and its own operations may
call further callbacks. Such a nest of calls is a run of the interleaved machine: what a callback does comes
between two pieces of the reports in progress, none of which it touches, and the reports it begins are over
when it returns.
-/

namespace PerfTimeline

namespace Timeline

variable {ε : Type} {hooks : Hooks ε} {tl tl' tl'' : Timeline ε}

/-- A timeline as the interleaved machine sees it, without the host and those who own the recorder for the
time of a call. -/
def still (tl : Timeline ε) : Timeline Unit :=
  { recorder := tl.recorder, registry := tl.registry, slots := tl.slots, host := () }

/-- From `tl` to `tl'` the machine can go as well, from wherever it is with its reports. -/
structure Interleaves (tl tl' : Timeline ε) : Prop where
  owners : tl'.owners = tl.owners
  actions : ∀ ds, ∃ actions ds', (⟨tl.still, ds⟩ : Interleaved).run actions = ⟨tl'.still, ds ++ ds'⟩ ∧
    ∀ d ∈ ds', d.awaiting = some []

theorem Interleaves.of_still (howners : tl'.owners = tl.owners) (h : tl'.still = tl.still) :
    Interleaves tl tl' :=
  ⟨howners, fun ds => ⟨[], [], by rw [h, List.append_nil]; rfl, nofun⟩⟩

theorem Interleaves.refl (tl : Timeline ε) : Interleaves tl tl := .of_still rfl rfl

theorem Interleaves.trans (h : Interleaves tl tl') (h' : Interleaves tl' tl'') : Interleaves tl tl'' := by
  refine ⟨h'.owners.trans h.owners, ?_⟩
  intro ds
  obtain ⟨first, ds', hfirst, hover⟩ := h.actions ds
  obtain ⟨second, ds'', hsecond, hover'⟩ := h'.actions (ds ++ ds')
  refine ⟨first ++ second, ds' ++ ds'', ?_, ?_⟩
  · rw [Interleaved.run_append, hfirst, hsecond, List.append_assoc]
  · intro d hd
    rcases List.mem_append.mp hd with hd | hd
    · exact hover d hd
    · exact hover' d hd

theorem Interleaves.isOpen (h : Interleaves tl tl') : tl'.isOpen = tl.isOpen := by
  unfold Timeline.isOpen
  rw [h.owners]

theorem Interleaves.retained (h : Interleaves tl.retain tl') : Interleaves tl tl'.release := by
  refine ⟨?_, h.actions⟩
  have howners := h.owners
  simp only [retain, release] at *
  omega

theorem Interleaves.operate (op : Operation) (hop : op.isAtomic = true) (howners : tl'.owners = tl.owners)
    (h : (tl.still.perform .quiet op).1 = tl'.still) : Interleaves tl tl' := by
  refine ⟨howners, fun ds => ⟨[.operate op hop], [], ?_, nofun⟩⟩
  rw [Interleaved.run_cons, Interleaved.run_nil, List.append_nil, ← h]
  rfl

end Timeline

/-- A host whose callbacks do what the machine can do. -/
def Hooks.Reentrant {ε : Type} (hooks : Hooks ε) : Prop :=
  ∀ o (tl : Timeline ε), tl.isOpen = true → tl.Interleaves (hooks.call o tl)

namespace Timeline

variable {ε : Type} {hooks : Hooks ε} {tl tl' : Timeline ε}

/-! ### Reactions -/

theorem dispatch_interleaves (h : hooks.Reentrant) (o : ObserverId) (hopen : tl.isOpen = true) :
    Interleaves tl (tl.dispatch hooks o) := by
  have htold : Interleaves tl (tl.emit hooks [.dispatchRequested]) := .of_still rfl rfl
  unfold dispatch
  dsimp only
  split
  · exact htold
  · split
    · exact htold.trans (h o _ hopen)
    · exact .of_still rfl rfl

theorem react_interleaves (h : hooks.Reentrant) (o : ObserverId) (next : Observer × Observer.Reaction)
    (hopen : tl.isOpen = true) : Interleaves (tl.setObserver o next.1) (tl.react hooks o next) := by
  have htold : Interleaves (tl.setObserver o next.1)
      ((tl.setObserver o next.1).emit hooks next.2.events) := .of_still rfl rfl
  unfold react
  dsimp only
  split
  · exact htold.trans (dispatch_interleaves h o hopen)
  · exact htold

theorem still_react_quiet (o : ObserverId) (next : Observer × Observer.Reaction) (tl : Timeline Unit) :
    tl.react .quiet o next = tl.setObserver o next.1 := by
  obtain ⟨host, heq⟩ := react_eq Hooks.passive_quiet o next tl
  exact heq

/-! ### Subscriptions -/

/-- An operation that does something only to an observer that exists and is connected. -/
theorem connected_interleaves {o : ObserverId} {body : Observer → Timeline ε}
    (h : ∀ s, tl.observer? o = some s → s.isDisconnected = false → Interleaves tl (body s)) :
    Interleaves tl (match tl.observer? o with
      | none => tl
      | some s => if s.isDisconnected then tl else body s) := by
  cases hs : tl.observer? o with
  | none => exact .refl tl
  | some s =>
    cases hd : s.isDisconnected with
    | true =>
      simp only [hd, ite_true]
      exact .refl tl
    | false =>
      simp only [hd, Bool.false_eq_true, ite_false]
      exact h s hs hd

theorem observeOne_interleaves (h : hooks.Reentrant) {o : ObserverId} (hl : tl.isLive o = true)
    (hopen : tl.isOpen = true) (t : EntryType) (options : ObserveOptions) :
    Interleaves tl (tl.observeOne hooks o t options) := by
  refine connected_interleaves ?_
  intro s hs hd
  let next := s.observeOne t options (some (tl.recorder.select t none))
  have henroll : tl.enroll o = tl.register o := if_pos hopen
  have hstate : (tl.still.perform .quiet (.observeOne o t options)).1 =
      ((tl.register o).setObserver o next.1).still := by
    have hlive : tl.still.isLive o = true := hl
    have hobs : tl.still.observer? o = some s := hs
    have hstill : tl.still.isOpen = true := rfl
    simp only [perform, onLive, hlive, ite_true, observeOne, hobs, hd, Bool.false_eq_true, ite_false,
      hstill, still_react_quiet, enroll]
    rfl
  have hset : Interleaves tl ((tl.register o).setObserver o next.1) :=
    .operate (.observeOne o t options) rfl rfl hstate
  have hretained : (tl.register o).retain.isOpen = true := by simp [retain, isOpen]
  have hreact : Interleaves ((tl.register o).setObserver o next.1).retain
      ((tl.register o).retain.react hooks o next) := react_interleaves h o next hretained
  simp only [hopen, ite_true, henroll]
  exact hset.trans hreact.retained

theorem observeMany_interleaves (h : hooks.Reentrant) {o : ObserverId} (hl : tl.isLive o = true)
    (hopen : tl.isOpen = true) (types : List EntryType) :
    Interleaves tl (tl.observeMany hooks o types) := by
  refine connected_interleaves ?_
  intro s hs hd
  have henroll : tl.enroll o = tl.register o := if_pos hopen
  have hstate : (tl.still.perform .quiet (.observeMany o types)).1 =
      ((tl.register o).setObserver o (s.observeMany types).1).still := by
    have hlive : tl.still.isLive o = true := hl
    have hobs : tl.still.observer? o = some s := hs
    have hstill : tl.still.isOpen = true := rfl
    simp only [perform, onLive, hlive, ite_true, observeMany, hobs, hd, Bool.false_eq_true, ite_false,
      still_react_quiet, enroll, hstill]
    rfl
  have hset : Interleaves tl ((tl.register o).setObserver o (s.observeMany types).1) :=
    .operate (.observeMany o types) rfl rfl hstate
  rw [henroll]
  exact hset.trans (react_interleaves h o _ hopen)

theorem disconnect_interleaves (h : hooks.Reentrant) {o : ObserverId} (hl : tl.isLive o = true)
    (hopen : tl.isOpen = true) : Interleaves tl (tl.disconnect hooks o) := by
  refine connected_interleaves ?_
  intro s hs hd
  have hstate : (tl.still.perform .quiet (.disconnect o)).1 =
      ((tl.unregister o).setObserver o s.disconnect.1).still := by
    have hlive : tl.still.isLive o = true := hl
    have hobs : tl.still.observer? o = some s := hs
    have hstill : tl.still.isOpen = true := rfl
    simp only [perform, onLive, hlive, ite_true, disconnect, hobs, hd, Bool.false_eq_true, ite_false,
      still_react_quiet, hstill]
    rfl
  have hset : Interleaves tl ((tl.unregister o).setObserver o s.disconnect.1) :=
    .operate (.disconnect o) rfl rfl hstate
  simp only [hopen, ite_true]
  exact hset.trans (react_interleaves h o _ hopen)

theorem take_interleaves {o : ObserverId} (hl : tl.isLive o = true) (sorted : Bool) :
    Interleaves tl (tl.take o sorted).1 := by
  cases hs : tl.observer? o with
  | none =>
    simp only [take, hs]
    exact .refl tl
  | some s =>
    have hlive : tl.still.isLive o = true := hl
    have hobs : tl.still.observer? o = some s := hs
    simp only [take, hs]
    refine .operate (.take o sorted) rfl rfl ?_
    simp only [perform, onLive, hlive, ite_true, take, hobs]
    rfl

/-! ### Reports -/

theorem still_retainAll (os : List ObserverId) (tl : Timeline ε) :
    (os.foldl retainObserver tl).still = os.foldl retainObserver tl.still := by
  induction os generalizing tl with
  | nil => rfl
  | cons o os ih => exact ih (tl.retainObserver o)

theorem push_interleaves (h : hooks.Reentrant) (o : ObserverId) (e : Entry) (hopen : tl.isOpen = true) :
    ∃ t : Timeline ε, t.still = (tl.still.push .quiet o e).1 ∧ t.owners = tl.owners ∧
      Interleaves t (tl.push hooks o e).1 := by
  cases hs : tl.observer? o with
  | none =>
    have hobs : tl.still.observer? o = none := hs
    refine ⟨tl, ?_, rfl, ?_⟩
    · simp only [push, hobs]
    · simp only [push, hs]
      exact .refl tl
  | some s =>
    have hobs : tl.still.observer? o = some s := hs
    refine ⟨tl.setObserver o (s.push e).1, ?_, rfl, ?_⟩
    · simp only [push, hobs, still_react_quiet]
      rfl
    · simp only [push, hs]
      exact react_interleaves h o _ hopen

/-- The turns of the observers listed for report `ds.length`, which are interleaved with whatever the
callbacks do. -/
theorem turns_interleave (h : hooks.Reentrant) (hopen : tl.isOpen = true) (e : Entry)
    (os : List ObserverId) (ds late : List Delivery) :
    (os.foldl (offer hooks e) tl).owners = tl.owners ∧
      ∃ actions ds', (⟨tl.still, ds ++ ⟨e, some os⟩ :: late⟩ : Interleaved).run actions =
          ⟨(os.foldl (offer hooks e) tl).still, ds ++ ⟨e, some []⟩ :: (late ++ ds')⟩ ∧
        ∀ d ∈ ds', d.awaiting = some [] := by
  induction os generalizing tl late with
  | nil => exact ⟨rfl, [], [], by rw [List.append_nil]; rfl, nofun⟩
  | cons o os ih =>
    -- The machine takes the turn, then does what the callback does, then drops the observer. The reports
    -- begun meanwhile are behind those there were.
    obtain ⟨t, hstill, howners, hpush⟩ := push_interleaves h o e hopen
    obtain ⟨within, ds₁, hwithin, hover₁⟩ := hpush.actions (ds ++ ⟨e, some os⟩ :: late)
    have hnext : (tl.offer hooks e o).isOpen = true := by
      have hopen' : t.isOpen = tl.isOpen := by
        unfold isOpen
        rw [howners]
      exact (hpush.isOpen.trans hopen').trans hopen
    obtain ⟨hend, rest, ds₂, hrest, hover₂⟩ := ih hnext (late ++ ds₁)
    refine ⟨hend.trans (hpush.owners.trans howners),
      [.turn ds.length] ++ within ++ [.operate (.drop o) rfl] ++ rest, ds₁ ++ ds₂, ?_, ?_⟩
    · have hturn : (⟨tl.still, ds ++ ⟨e, some (o :: os)⟩ :: late⟩ : Interleaved).run [.turn ds.length] =
          ⟨t.still, ds ++ ⟨e, some os⟩ :: late⟩ := by
        rw [hstill]
        simp [Interleaved.step]
      have hdrop (ds : List Delivery) : (⟨(tl.push hooks o e).1.still, ds⟩ : Interleaved).run
          [.operate (.drop o) rfl] = ⟨(tl.offer hooks e o).still, ds⟩ := rfl
      rw [Interleaved.run_append, Interleaved.run_append, Interleaved.run_append, hturn, hwithin, hdrop]
      have hds : (ds ++ ⟨e, some os⟩ :: late) ++ ds₁ = ds ++ ⟨e, some os⟩ :: (late ++ ds₁) := by simp
      rw [hds, hrest, List.append_assoc]
      rfl
    · intro d hd
      rcases List.mem_append.mp hd with hd | hd
      · exact hover₁ d hd
      · exact hover₂ d hd

theorem report_interleaves (h : hooks.Reentrant) (hopen : tl.isOpen = true) (e : Entry) :
    Interleaves tl (tl.report hooks e).1 := by
  let stored := e.withSequence (tl.recorder.sequence + 1)
  let kept := (tl.store hooks e).1.prune
  let owned := kept.registry.foldl retainObserver kept
  have hretained (os : List ObserverId) (t : Timeline ε) :
      (os.foldl retainObserver t).owners = t.owners := by
    induction os generalizing t with
    | nil => rfl
    | cons o os ih => exact ih (t.retainObserver o)
  have howned : owned.owners = tl.owners := hretained _ kept
  have hopened : owned.isOpen = true := by
    unfold isOpen
    rw [howned]
    exact hopen
  refine ⟨(turns_interleave h hopened stored kept.registry [] []).1.trans howned, ?_⟩
  intro ds
  obtain ⟨-, turns, ds', hturns, hover⟩ := turns_interleave h hopened stored kept.registry ds []
  refine ⟨[.store e, .list ds.length] ++ turns, ⟨stored, some []⟩ :: ds', ?_, ?_⟩
  · have hlisted : (⟨tl.still, ds⟩ : Interleaved).run [.store e, .list ds.length] =
        ⟨owned.still, ds ++ [⟨stored, some kept.registry⟩]⟩ := by
      have hstore : (⟨tl.still, ds⟩ : Interleaved).step (.store e) =
          ⟨(tl.store hooks e).1.still, ds ++ [{ entry := stored }]⟩ := rfl
      have howned' : owned.still = Interleaved.listed (tl.store hooks e).1.still := still_retainAll _ kept
      rw [Interleaved.run_cons, hstore, Interleaved.run_cons, Interleaved.run_nil, howned']
      simp [Interleaved.step]
      rfl
    rw [Interleaved.run_append, hlisted, hturns]
    rfl
  · intro d hd
    rcases List.mem_cons.mp hd with rfl | hd
    · rfl
    · exact hover d hd

/-! ### Runs -/

theorem onLive_interleaves {o : ObserverId} {act : Timeline ε → Timeline ε × Answer}
    (hact : tl.isLive o = true → Interleaves tl (act tl).1) : Interleaves tl (tl.onLive o act).1 := by
  unfold onLive
  cases hl : tl.isLive o with
  | true => exact hact hl
  | false => exact .refl tl

theorem perform_interleaves (h : hooks.Reentrant) (hopen : tl.isOpen = true) {op : Operation}
    (hdirect : op.isDirect = false) (hkeeps : op.keepsOpen = true) :
    Interleaves tl (tl.perform hooks op).1 := by
  cases op with
  | report e => exact report_interleaves h hopen e
  | reportEvent name start duration timing =>
    have hcount : Interleaves tl { tl with recorder := tl.recorder.countEvent name } := by
      refine ⟨rfl, fun ds => ⟨[.count name], [], ?_, nofun⟩⟩
      rw [List.append_nil]
      rfl
    have hopen' : ({ tl with recorder := tl.recorder.countEvent name } : Timeline ε).isOpen = true := hopen
    exact hcount.trans (report_interleaves h hopen' _)
  | clear t name => exact .operate (.clear t name) rfl rfl rfl
  | clearAll => exact .operate .clearAll rfl rfl rfl
  | resetDropped => exact .operate .resetDropped rfl rfl rfl
  | clearCounts => exact .operate .clearCounts rfl rfl rfl
  | create limit route => exact .operate (.create limit route) rfl rfl rfl
  | drop o => exact .operate (.drop o) rfl rfl rfl
  | clone o =>
    refine onLive_interleaves fun hl => .operate (.clone o) rfl rfl ?_
    have hlive : tl.still.isLive o = true := hl
    simp only [perform, onLive, hlive, ite_true]
    rfl
  | observeOne o t options =>
    exact onLive_interleaves fun hl => observeOne_interleaves h hl hopen t options
  | observeMany o types => exact onLive_interleaves fun hl => observeMany_interleaves h hl hopen types
  | take o sorted => exact onLive_interleaves fun hl => take_interleaves hl sorted
  | disconnect o => exact onLive_interleaves fun hl => disconnect_interleaves h hl hopen
  | close => cases hkeeps
  | push o e => cases hdirect
  | register o => cases hdirect
  | unregister o => cases hdirect
  | fanOut e => cases hdirect

/-- A run with callbacks that use the timeline again is a run of the machine. -/
theorem run_interleaves (h : hooks.Reentrant) (hopen : tl.isOpen = true) {ops : List Operation}
    (hops : ∀ op ∈ ops, op.isDirect = false ∧ op.keepsOpen = true) : Interleaves tl (tl.run hooks ops) := by
  induction ops generalizing tl with
  | nil => exact .refl tl
  | cons op ops ih =>
    obtain ⟨hdirect, hkeeps⟩ := hops op List.mem_cons_self
    have hfirst := perform_interleaves h hopen hdirect hkeeps
    have hopen' : (tl.perform hooks op).1.isOpen = true := hfirst.isOpen.trans hopen
    exact hfirst.trans (ih hopen' fun op' hm => hops op' (List.mem_cons_of_mem _ hm))

end Timeline

/-- Whatever the callbacks do, a timeline ends up as the machine does in some run, at whose end all reports
are over. -/
theorem Interleaved.exists_run {ε : Type} {hooks : Hooks ε} (h : hooks.Reentrant) (capacities : Capacities)
    (host : ε) {ops : List Operation} (hops : ∀ op ∈ ops, op.isDirect = false ∧ op.keepsOpen = true) :
    ∃ actions, ((new capacities).run actions).timeline =
        ((Timeline.new capacities host).run hooks ops).still ∧
      ∀ d ∈ ((new capacities).run actions).deliveries, d.awaiting = some [] := by
  have hopen : (Timeline.new capacities host).isOpen = true := rfl
  obtain ⟨-, hactions⟩ := Timeline.run_interleaves h hopen hops
  obtain ⟨actions, ds, hrun, hover⟩ := hactions []
  have hnew : new capacities = ⟨(Timeline.new capacities host).still, []⟩ := rfl
  refine ⟨actions, ?_, ?_⟩
  · rw [hnew, hrun]
  · rw [hnew, hrun]
    exact hover

/-- A host whose callbacks perform what a plan says, nested at most so deep. -/
def Hooks.planned {ε : Type} (hooks : Hooks ε) (plan : ObserverId → Timeline ε → List Operation) :
    Nat → Hooks ε
  | 0 => { hooks with call := fun _ tl => tl }
  | depth + 1 => { hooks with call := fun o tl => tl.run (hooks.planned plan depth) (plan o tl) }

theorem Hooks.reentrant_planned {ε : Type} (hooks : Hooks ε)
    {plan : ObserverId → Timeline ε → List Operation}
    (hplan : ∀ o tl, ∀ op ∈ plan o tl, op.isDirect = false ∧ op.keepsOpen = true) (depth : Nat) :
    (hooks.planned plan depth).Reentrant := by
  induction depth with
  | zero => exact fun _ tl _ => .refl tl
  | succ depth ih => exact fun o tl hopen => Timeline.run_interleaves ih hopen (hplan o tl)

end PerfTimeline
