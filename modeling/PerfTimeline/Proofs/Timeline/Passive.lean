import PerfTimeline.Proofs.Timeline.Operation

/-!
# Operations without re-entry

Callbacks are passive when they leave the timeline as it is and only change their host. Then an operation
has a plain effect: `Timeline.effect` says what it is, and `perform_eq` that nothing else happens but to the
host. A report offers the stored entry to each registered observer that is alive, exactly once.
-/

namespace PerfTimeline

variable {ε : Type}

/-- Callbacks change nothing but the host. -/
def Hooks.Passive (hooks : Hooks ε) : Prop :=
  ∀ (o : ObserverId) (tl : Timeline ε), ∃ host, hooks.call o tl = { tl with host }

/-- A host that pays no attention. -/
def Hooks.quiet : Hooks Unit where
  trace _ host := host
  schedule _ _ host := host
  call _ tl := tl

theorem Hooks.passive_quiet : Hooks.quiet.Passive := fun _ tl => ⟨tl.host, rfl⟩

namespace Timeline

variable {hooks : Hooks ε}

/-! ### Changing observers -/

/-- Change the state of an observer. -/
def updateObserver (tl : Timeline ε) (o : ObserverId) (f : Observer → Observer) : Timeline ε :=
  { tl with slots := tl.slots.modify o fun s => { s with observer := f s.observer } }

/-- Offer an entry to each of some observers, once. -/
def announce (tl : Timeline ε) (e : Entry) (os : List ObserverId) : Timeline ε :=
  { tl with slots := tl.slots.mapIdx fun i s =>
      if i ∈ os then { s with observer := (s.observer.push e).1 } else s }

theorem observer?_updateObserver (tl : Timeline ε) (o p : ObserverId) (f : Observer → Observer) :
    (tl.updateObserver o f).observer? p = (tl.observer? p).map fun s => if o = p then f s else s := by
  simp only [updateObserver, observer?, List.getElem?_modify]
  cases tl.slots[p]? with
  | none => rfl
  | some s => by_cases h : o = p <;> simp [h]

theorem observer?_announce (tl : Timeline ε) (e : Entry) (os : List ObserverId) (p : ObserverId) :
    (tl.announce e os).observer? p =
      (tl.observer? p).map fun s => if p ∈ os then (s.push e).1 else s := by
  simp only [announce, observer?, List.getElem?_mapIdx]
  cases tl.slots[p]? with
  | none => rfl
  | some s => by_cases h : p ∈ os <;> simp [h]

theorem isLive_updateObserver (tl : Timeline ε) (o p : ObserverId) (f : Observer → Observer) :
    (tl.updateObserver o f).isLive p = tl.isLive p := by
  simp only [updateObserver, isLive, List.getElem?_modify]
  cases tl.slots[p]? with
  | none => rfl
  | some s => by_cases h : o = p <;> simp [h]

theorem isLive_announce (tl : Timeline ε) (e : Entry) (os : List ObserverId) (p : ObserverId) :
    (tl.announce e os).isLive p = tl.isLive p := by
  simp only [announce, isLive, List.getElem?_mapIdx]
  cases tl.slots[p]? with
  | none => rfl
  | some s => by_cases h : p ∈ os <;> simp [h]

theorem setObserver_eq {tl : Timeline ε} {o : ObserverId} {s : Observer} (h : tl.observer? o = some s)
    (f : Observer → Observer) : tl.setObserver o (f s) = tl.updateObserver o f := by
  unfold setObserver updateObserver
  congr 1
  apply List.ext_getElem?
  intro p
  simp only [List.getElem?_modify]
  by_cases hp : o = p
  · subst hp
    obtain ⟨slot, hslot, rfl⟩ := Option.map_eq_some_iff.mp h
    simp [hslot]
  · simp [hp]

theorem updateObserver_of_none {tl : Timeline ε} {o : ObserverId} (h : tl.observer? o = none)
    (f : Observer → Observer) : tl.updateObserver o f = tl := by
  have ho : tl.slots[o]? = none := by simpa [observer?] using h
  have hslots : tl.slots.modify o (fun s => { s with observer := f s.observer }) = tl.slots :=
    List.modify_eq_self (by simpa using ho)
  unfold updateObserver
  rw [hslots]

/-! ### The pieces -/

theorem dispatch_eq (h : hooks.Passive) (o : ObserverId) (tl : Timeline ε) :
    ∃ host, tl.dispatch hooks o = { tl with host } := by
  unfold dispatch
  dsimp only
  split
  · exact ⟨_, rfl⟩
  · split
    · obtain ⟨host, hh⟩ := h o (tl.emit hooks [.dispatchRequested])
      exact ⟨host, hh⟩
    · exact ⟨_, rfl⟩

theorem react_eq (h : hooks.Passive) (o : ObserverId) (next : Observer × Observer.Reaction)
    (tl : Timeline ε) : ∃ host, tl.react hooks o next = { tl.setObserver o next.1 with host } := by
  unfold react
  dsimp only
  split
  · exact dispatch_eq h o _
  · exact ⟨_, rfl⟩

theorem push_eq (h : hooks.Passive) (o : ObserverId) (e : Entry) (tl : Timeline ε) :
    ∃ host, (tl.push hooks o e).1 = { tl.updateObserver o fun s => (s.push e).1 with host } := by
  unfold push
  split
  · rename_i hn
    rw [updateObserver_of_none hn]
    exact ⟨_, rfl⟩
  · rename_i s hs
    rw [← setObserver_eq hs fun s => (s.push e).1]
    exact react_eq h o _ tl

theorem mapIdx_self {α : Type} (l : List α) : l.mapIdx (fun _ a => a) = l := by
  apply List.ext_getElem?
  intro i
  simp

theorem retain_eq {os : List ObserverId} (hn : os.Nodup) (tl : Timeline ε) :
    os.foldl retainObserver tl =
      { tl with slots := tl.slots.mapIdx fun i s =>
          if i ∈ os then { s with owners := s.owners + 1 } else s } := by
  induction os generalizing tl with
  | nil => simp [mapIdx_self]
  | cons o os ih =>
    obtain ⟨ho, hn⟩ := List.nodup_cons.mp hn
    rw [List.foldl_cons, ih hn]
    unfold retainObserver
    congr 1
    apply List.ext_getElem?
    intro i
    simp only [List.getElem?_mapIdx, List.getElem?_modify]
    cases tl.slots[i]? with
    | none => rfl
    | some s =>
      by_cases hi : o = i
      · subst hi
        simp [ho]
      · simp [hi, Ne.symm hi]

theorem offers_eq (h : hooks.Passive) (e : Entry) {os : List ObserverId} (hn : os.Nodup)
    (tl : Timeline ε) :
    ∃ host, os.foldl (offer hooks e) tl =
      { tl with
        slots := tl.slots.mapIdx fun i s =>
          if i ∈ os then { s with observer := (s.observer.push e).1, owners := s.owners - 1 } else s
        host } := by
  induction os generalizing tl with
  | nil => exact ⟨tl.host, by simp [mapIdx_self]⟩
  | cons o os ih =>
    obtain ⟨ho, hn⟩ := List.nodup_cons.mp hn
    obtain ⟨host, hpush⟩ := push_eq h o e tl
    obtain ⟨host', hrest⟩ := ih hn (offer hooks e tl o)
    refine ⟨host', ?_⟩
    rw [List.foldl_cons, hrest]
    simp only [offer, hpush, releaseObserver, updateObserver]
    congr 1
    apply List.ext_getElem?
    intro i
    simp only [List.getElem?_mapIdx, List.getElem?_modify]
    cases tl.slots[i]? with
    | none => rfl
    | some s =>
      by_cases hi : o = i
      · subst hi
        simp [ho]
      · simp [hi, Ne.symm hi]

/-- A delivery offers the entry to each observer of the list, and owns none of them in the end. -/
theorem deliver_eq (h : hooks.Passive) (e : Entry) {os : List ObserverId} (hn : os.Nodup)
    (tl : Timeline ε) : ∃ host, tl.deliver hooks e os = { tl.announce e os with host } := by
  obtain ⟨host, hoffers⟩ := offers_eq h e hn (os.foldl retainObserver tl)
  refine ⟨host, ?_⟩
  rw [deliver, hoffers, retain_eq hn]
  unfold announce
  congr 1
  apply List.ext_getElem?
  intro i
  simp only [List.getElem?_mapIdx]
  cases tl.slots[i]? with
  | none => rfl
  | some s => by_cases hi : i ∈ os <;> simp [hi]

/-- Offer an entry to the registered observers that are alive; the others leave the registry. -/
def spread (tl : Timeline ε) (e : Entry) : Timeline ε := tl.prune.announce e tl.prune.registry

theorem fanOut_eq (h : hooks.Passive) {tl : Timeline ε} (hn : tl.registry.Nodup) (e : Entry) :
    ∃ host, tl.fanOut hooks e = { tl.spread e with host } :=
  deliver_eq h e (Registry.nodup_prune hn _) tl.prune

/-- Store an entry and offer it as stored. -/
def publish (tl : Timeline ε) (e : Entry) : Timeline ε :=
  { tl with recorder := (tl.recorder.append e).1 }.spread (e.withSequence (tl.recorder.sequence + 1))

theorem report_eq (h : hooks.Passive) {tl : Timeline ε} (hn : tl.registry.Nodup) (e : Entry) :
    ∃ host, (tl.report hooks e).1 = { tl.publish e with host } := by
  have hstored : (tl.store hooks e).1.registry.Nodup := hn
  exact fanOut_eq h hstored _

/-! ### All operations -/

/-- Whether an observer exists and is connected. -/
def isConnected (tl : Timeline ε) (o : ObserverId) : Bool :=
  (tl.observer? o).any fun s => !s.isDisconnected

/-- The stored entries of a type that an observer can reach. -/
def reachable (tl : Timeline ε) (t : EntryType) : Option (List Entry) :=
  if tl.isOpen then some (tl.recorder.select t none) else none

/-- What an operation does to a timeline whose callbacks are passive. -/
def effect (tl : Timeline ε) : Operation → Timeline ε
  | .report e => tl.publish e
  | .reportEvent name start duration timing =>
    { tl with recorder := tl.recorder.countEvent name }.publish (.event name start duration timing)
  | .clear t name => { tl with recorder := (tl.recorder.clear t name).1 }
  | .clearAll => { tl with recorder := tl.recorder.clearAll.1 }
  | .resetDropped => { tl with recorder := tl.recorder.resetDropped }
  | .clearCounts => { tl with recorder := tl.recorder.clearCounts }
  | .create limit route => (tl.create limit route).1
  | .clone o => if tl.isLive o then tl.retainObserver o else tl
  | .drop o => tl.releaseObserver o
  | .observeOne o t options =>
    if tl.isLive o && tl.isConnected o then
      (tl.enroll o).updateObserver o fun s => (s.observeOne t options (tl.reachable t)).1
    else tl
  | .observeMany o types =>
    if tl.isLive o && tl.isConnected o then
      (tl.enroll o).updateObserver o fun s => (s.observeMany types).1
    else tl
  | .take o sorted => if tl.isLive o then tl.updateObserver o fun s => (s.take sorted).1 else tl
  | .disconnect o =>
    if tl.isLive o && tl.isConnected o then
      (if tl.isOpen then tl.unregister o else tl).updateObserver o fun s => s.disconnect.1
    else tl
  | .push o e => if tl.isLive o then tl.updateObserver o fun s => (s.push e).1 else tl
  | .register o => if tl.isLive o then tl.register o else tl
  | .unregister o => if tl.isLive o then tl.unregister o else tl
  | .fanOut e => tl.spread e
  | .close => tl.release

theorem observer?_enroll (tl : Timeline ε) (o p : ObserverId) :
    (tl.enroll o).observer? p = tl.observer? p := by
  unfold enroll
  split <;> rfl

theorem observeOne_eq (h : hooks.Passive) (o : ObserverId) (t : EntryType) (options : ObserveOptions)
    (tl : Timeline ε) :
    ∃ host, tl.observeOne hooks o t options =
      { (if tl.isConnected o then
          (tl.enroll o).updateObserver o fun s => (s.observeOne t options (tl.reachable t)).1
        else tl) with host } := by
  unfold observeOne isConnected
  cases hs : tl.observer? o with
  | none => exact ⟨tl.host, rfl⟩
  | some s =>
    cases hd : s.isDisconnected with
    | true => exact ⟨tl.host, by simp [hd]⟩
    | false =>
      have hset := setObserver_eq ((observer?_enroll tl o o).trans hs)
        fun s => (s.observeOne t options (tl.reachable t)).1
      simp only [hd, Bool.false_eq_true, ite_false, Option.any_some, Bool.not_false, ite_true]
      rw [← hset]
      cases ho : tl.isOpen with
      | true =>
        have hr : tl.reachable t = some (tl.recorder.select t none) := by simp [reachable, ho]
        obtain ⟨host, hreact⟩ := react_eq h o (s.observeOne t options (tl.reachable t)) (tl.enroll o).retain
        refine ⟨host, ?_⟩
        simp only [ite_true, ← hr, hreact]
        rfl
      | false =>
        have hr : tl.reachable t = none := by simp [reachable, ho]
        have he : tl.enroll o = tl := by simp [enroll, ho]
        rw [he, hr]
        exact react_eq h o _ tl

theorem observeMany_eq (h : hooks.Passive) (o : ObserverId) (types : List EntryType) (tl : Timeline ε) :
    ∃ host, tl.observeMany hooks o types =
      { (if tl.isConnected o then (tl.enroll o).updateObserver o fun s => (s.observeMany types).1
        else tl) with host } := by
  unfold observeMany isConnected
  cases hs : tl.observer? o with
  | none => exact ⟨tl.host, rfl⟩
  | some s =>
    cases hd : s.isDisconnected with
    | true => exact ⟨tl.host, by simp [hd]⟩
    | false =>
      have hset := setObserver_eq ((observer?_enroll tl o o).trans hs) fun s => (s.observeMany types).1
      simp only [hd, Bool.false_eq_true, ite_false, Option.any_some, Bool.not_false, ite_true]
      rw [← hset]
      exact react_eq h o _ (tl.enroll o)

theorem disconnect_eq (h : hooks.Passive) (o : ObserverId) (tl : Timeline ε) :
    ∃ host, tl.disconnect hooks o =
      { (if tl.isConnected o then
          (if tl.isOpen then tl.unregister o else tl).updateObserver o fun s => s.disconnect.1
        else tl) with host } := by
  unfold disconnect isConnected
  cases hs : tl.observer? o with
  | none => exact ⟨tl.host, rfl⟩
  | some s =>
    cases hd : s.isDisconnected with
    | true => exact ⟨tl.host, by simp [hd]⟩
    | false =>
      have hs' : (if tl.isOpen then tl.unregister o else tl).observer? o = some s := by
        split <;> exact hs
      have hset := setObserver_eq hs' fun s => s.disconnect.1
      simp only [hd, Bool.false_eq_true, ite_false, Option.any_some, Bool.not_false, ite_true]
      rw [← hset]
      exact react_eq h o _ _

theorem take_fst (o : ObserverId) (sorted : Bool) (tl : Timeline ε) :
    (tl.take o sorted).1 = tl.updateObserver o fun s => (s.take sorted).1 := by
  unfold take
  split
  · rename_i hn
    exact (updateObserver_of_none hn _).symm
  · rename_i s hs
    exact setObserver_eq hs fun s => (s.take sorted).1

/-- An operation has its effect, and nothing else changes but the host. -/
theorem perform_eq (h : hooks.Passive) {tl : Timeline ε} (hn : tl.registry.Nodup) (op : Operation) :
    ∃ host, (tl.perform hooks op).1 = { tl.effect op with host } := by
  -- An operation on an observer that is dead does nothing.
  have live {o : ObserverId} {act : Timeline ε → Timeline ε × Answer} {t : Timeline ε}
      (ha : ∃ host, (act tl).1 = { t with host }) :
      ∃ host, (tl.onLive o act).1 = { (if tl.isLive o then t else tl) with host } := by
    unfold onLive
    cases tl.isLive o with
    | true => exact ha
    | false => exact ⟨tl.host, rfl⟩
  have both (o : ObserverId) (t : Timeline ε) :
      (if tl.isLive o then (if tl.isConnected o then t else tl) else tl) =
        if tl.isLive o && tl.isConnected o then t else tl := by
    cases tl.isLive o <;> simp
  cases op with
  | report e => exact report_eq h hn e
  | reportEvent name start duration timing =>
    have hcounted : ({ tl with recorder := tl.recorder.countEvent name } : Timeline ε).registry.Nodup := hn
    exact report_eq h hcounted _
  | clear t name => exact ⟨_, rfl⟩
  | clearAll => exact ⟨_, rfl⟩
  | resetDropped => exact ⟨_, rfl⟩
  | clearCounts => exact ⟨_, rfl⟩
  | create limit route => exact ⟨tl.host, rfl⟩
  | clone o => exact live ⟨tl.host, rfl⟩
  | drop o => exact ⟨tl.host, rfl⟩
  | observeOne o t options =>
    rw [effect, ← both]
    exact live (observeOne_eq h o t options tl)
  | observeMany o types =>
    rw [effect, ← both]
    exact live (observeMany_eq h o types tl)
  | take o sorted => exact live ⟨tl.host, take_fst o sorted tl⟩
  | disconnect o =>
    rw [effect, ← both]
    exact live (disconnect_eq h o tl)
  | push o e => exact live (push_eq h o e tl)
  | register o => exact live ⟨tl.host, rfl⟩
  | unregister o => exact live ⟨tl.host, rfl⟩
  | fanOut e => exact fanOut_eq h hn e
  | close => exact ⟨tl.host, rfl⟩

end Timeline

end PerfTimeline
