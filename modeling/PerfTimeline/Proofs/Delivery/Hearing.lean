import PerfTimeline.Module.Basic
import PerfTimeline.Proofs.Observer.Reference
import PerfTimeline.Proofs.Timeline.Pending
import PerfTimeline.Proofs.Timeline.Recording

/-!
# Hearing of every mark and measure

An observer that observes marks and measures, and the queries of the timeline, are told the same. This is so
also while callbacks record further marks and measures in the middle of a report, when an entry is stored
already and the observer is still to be offered it. `Grows` follows both sides through the pieces of a
report: what is stored meanwhile is also delivered, and in addition what the piece owes the observer.
-/

namespace PerfTimeline

/-- What has been drained, drain by drain, kept by the host. -/
abbrev Drains := List (List Entry)

namespace Timeline

/-! ### Both sides -/

section Sides

variable {ε : Type}

/-- The stored entries that can be read back. -/
def stored (tl : Timeline ε) : List Entry :=
  EntryType.readable.flatMap fun t => tl.recorder.select t none

/-- How many own observer `o`. -/
def ownersOf (tl : Timeline ε) (o : ObserverId) : Nat := tl.slots[o]?.elim 0 (·.owners)

/-- Observer `o` hears of every entry that can be read back. -/
structure Hears (o : ObserverId) (tl : Timeline ε) : Prop where
  sound : tl.Sound
  reachable : ∃ capacities, tl.recorder.Reachable capacities
  unbounded : ∀ t ∈ EntryType.readable, (tl.recorder.buffer t).capacity = none
  owned : 0 < tl.ownersOf o
  registered : o ∈ tl.registry
  state : ∃ s, tl.observer? o = some s ∧ s.isDisconnected = false ∧ s.watermark = none ∧
    ∀ e, s.filter.admits e = EntryType.readable.contains e.entryType

end Sides

/-- The records that observer `o` gave out or still holds. -/
def delivered (o : ObserverId) (tl : Timeline Drains) : List Entry := tl.host.flatten ++ tl.pending o

/-- How many records observer `o` dropped. -/
abbrev droppedBy (o : ObserverId) (tl : Timeline Drains) : Nat := Module.droppedCount (some o) tl

/-- Observer `o` still hears of everything. `released` of its owners gave it up, and if it has dropped
nothing, then it has been delivered what was stored meanwhile, and `owed` besides. -/
structure Grows (o : ObserverId) (released : Nat) (owed : List Entry) (tl tl' : Timeline Drains) : Prop where
  hears : tl'.Hears o
  owners : tl'.ownersOf o + released = tl.ownersOf o
  gains : tl'.droppedBy o = 0 → tl.droppedBy o = 0 ∧ ∃ es, tl'.stored.Perm (tl.stored ++ es) ∧
    (tl'.delivered o).Perm (tl.delivered o ++ owed ++ es)

variable {o : ObserverId} {tl tl' tl'' : Timeline Drains} {n n' : Nat} {owed owed' : List Entry}

theorem Grows.trans (h : Grows o n owed tl tl') (h' : Grows o n' owed' tl' tl'') :
    Grows o (n' + n) (owed ++ owed') tl tl'' := by
  refine ⟨h'.hears, ?_, ?_⟩
  · have howners := h.owners
    have howners' := h'.owners
    omega
  · intro hdropped
    obtain ⟨hdropped, es', hstored', hdelivered'⟩ := h'.gains hdropped
    obtain ⟨hdropped, es, hstored, hdelivered⟩ := h.gains hdropped
    refine ⟨hdropped, es ++ es', ?_, ?_⟩
    · rw [← List.append_assoc]
      exact hstored'.trans (hstored.append_right es')
    · rw [List.perm_iff_count] at hdelivered hdelivered' ⊢
      intro e
      have hcount := hdelivered e
      have hcount' := hdelivered' e
      simp only [List.count_append] at hcount hcount' ⊢
      omega

/-- What leaves both sides as they are. -/
theorem Grows.of_frame (h : tl'.Hears o) (howners : tl'.ownersOf o + n = tl.ownersOf o)
    (hstored : tl'.stored = tl.stored) (hhost : tl'.host = tl.host)
    (hobs : tl'.observer? o = tl.observer? o) : Grows o n [] tl tl' := by
  have hdelivered : tl'.delivered o = tl.delivered o := by
    unfold delivered pending
    rw [hhost, hobs]
  have hdropped : tl'.droppedBy o = tl.droppedBy o := by
    show ((tl'.observer? o).map _).getD 0 = ((tl.observer? o).map _).getD 0
    rw [hobs]
  refine ⟨h, howners, fun hd => ⟨hdropped ▸ hd, [], ?_, ?_⟩⟩
  · rw [hstored, List.append_nil]
  · rw [hdelivered, List.append_nil, List.append_nil]

theorem Grows.refl (h : tl.Hears o) : Grows o 0 [] tl tl := .of_frame h rfl rfl rfl rfl

/-! ### Owners -/

theorem isLive_iff_owned {ε : Type} (tl : Timeline ε) (o : ObserverId) :
    tl.isLive o = true ↔ 0 < tl.ownersOf o := by
  unfold isLive ownersOf
  cases tl.slots[o]? with
  | none => simp
  | some s => simp [Nat.pos_iff_ne_zero]

theorem ownersOf_retainObserver {ε : Type} (tl : Timeline ε) {o : ObserverId} (ho : o < tl.slots.length)
    (p : ObserverId) : (tl.retainObserver p).ownersOf o = tl.ownersOf o + if p = o then 1 else 0 := by
  simp only [ownersOf, retainObserver, List.getElem?_modify]
  rw [List.getElem?_eq_getElem ho]
  by_cases hp : p = o <;> simp [hp]

theorem ownersOf_releaseObserver {ε : Type} (tl : Timeline ε) (o p : ObserverId) :
    (tl.releaseObserver p).ownersOf o = tl.ownersOf o - if p = o then 1 else 0 := by
  simp only [ownersOf, releaseObserver, List.getElem?_modify]
  cases tl.slots[o]? <;> by_cases hp : p = o <;> simp [hp]

theorem ownersOf_updateObserver {ε : Type} (tl : Timeline ε) (o p : ObserverId) (f : Observer → Observer) :
    (tl.updateObserver p f).ownersOf o = tl.ownersOf o := by
  simp only [ownersOf, updateObserver, List.getElem?_modify]
  cases tl.slots[o]? <;> by_cases hp : p = o <;> simp [hp]

theorem Hears.lt_length {ε : Type} {tl : Timeline ε} (h : tl.Hears o) : o < tl.slots.length :=
  h.sound.known o h.registered

theorem Hears.retainObserver {ε : Type} {tl : Timeline ε} (h : tl.Hears o) (p : ObserverId) :
    (tl.retainObserver p).Hears o := by
  refine ⟨h.sound.with_owners p (· + 1), h.reachable, h.unbounded, ?_, h.registered, ?_⟩
  · rw [ownersOf_retainObserver tl h.lt_length]
    have howned := h.owned
    omega
  · rw [observer?_retainObserver]
    exact h.state

/-! ### Reactions -/

end Timeline

/-- Callbacks keep both sides together, and the host takes no notice of anything else. -/
structure Hooks.Follow (o : ObserverId) (hooks : Hooks Drains) : Prop where
  trace : ∀ event host, hooks.trace event host = host
  schedule : ∀ priority p host, hooks.schedule priority p host = host
  call : ∀ p tl, tl.Hears o → Timeline.Grows o 0 [] tl (hooks.call p tl)

namespace Timeline

variable {hooks : Hooks Drains} {o : ObserverId} {tl : Timeline Drains}

theorem emit_of_follow (h : hooks.Follow o) (events : List TraceEvent) (tl : Timeline Drains) :
    tl.emit hooks events = tl := by
  have hhost (host : Drains) : events.foldl (fun host e => hooks.trace e host) host = host := by
    induction events with
    | nil => rfl
    | cons e events ih => rw [List.foldl_cons, h.trace, ih]
  unfold emit
  rw [hhost]

theorem grows_dispatch (h : hooks.Follow o) (hears : tl.Hears o) (p : ObserverId) :
    Grows o 0 [] tl (tl.dispatch hooks p) := by
  unfold dispatch
  dsimp only
  rw [emit_of_follow h]
  split
  · exact .refl hears
  · split
    · exact h.call p tl hears
    · rw [h.schedule]
      exact .refl hears

theorem grows_react (h : hooks.Follow o) (p : ObserverId) (next : Observer × Observer.Reaction)
    (hears : (tl.setObserver p next.1).Hears o) :
    Grows o 0 [] (tl.setObserver p next.1) (tl.react hooks p next) := by
  unfold react
  dsimp only
  rw [emit_of_follow h]
  split
  · exact grows_dispatch h hears p
  · exact .refl hears

/-! ### Turns -/

theorem Hears.updateObserver {ε : Type} {tl : Timeline ε} (h : tl.Hears o) {p : ObserverId}
    {f : Observer → Observer}
    (hf : ∀ s, s.Coherent → s.MarkedUpTo tl.recorder.sequence →
      (f s).Coherent ∧ (f s).MarkedUpTo tl.recorder.sequence)
    (hstate : ∀ s, s.Coherent → s.isDisconnected = false → (f s).isDisconnected = false ∧
      (f s).watermark = s.watermark ∧ (f s).filter = s.filter) :
    (tl.updateObserver p f).Hears o := by
  refine ⟨h.sound.updateObserver hf, h.reachable, h.unbounded, ?_, h.registered, ?_⟩
  · rw [ownersOf_updateObserver]
    exact h.owned
  · obtain ⟨s, hs, hd, hw, hadmits⟩ := h.state
    rw [observer?_updateObserver, hs]
    refine ⟨_, rfl, ?_⟩
    split
    · obtain ⟨hd', hw', hf'⟩ := hstate s (h.sound.coherent o s hs) hd
      rw [hw', hf']
      exact ⟨hd', hw, hadmits⟩
    · exact ⟨hd, hw, hadmits⟩

theorem Hears.pushed {ε : Type} {tl : Timeline ε} (h : tl.Hears o) (p : ObserverId) (e : Entry) :
    (tl.updateObserver p fun s => (s.push e).1).Hears o := by
  refine h.updateObserver ?_ ?_
  · intro s hs hm
    refine ⟨Observer.coherent_push hs e, ?_⟩
    intro w hw
    rw [Observer.watermark_push] at hw
    exact hm w hw
  · intro s hs hd
    exact ⟨Observer.isDisconnected_push hs hd e, Observer.watermark_push s e, Observer.filter_push hs e⟩

/-- In its turn the observer is delivered the entry, or drops it. -/
theorem Hears.grows_pushed (h : tl.Hears o) {e : Entry} (he : e.entryType ∈ EntryType.readable) :
    Grows o 0 [e] tl (tl.updateObserver o fun s => (s.push e).1) := by
  obtain ⟨s, hs, hd, hw, hadmits⟩ := h.state
  have haccepts : s.accepts e = true := by
    have hcopied : s.hasCopied e = false := by simp [Observer.hasCopied, hw]
    simp [Observer.accepts, Observer.admits, hd, hcopied, hadmits, he]
  have hqueue : (s.push e).1.asQueue = s.asQueue.offer e := by
    rw [Observer.asQueue_push (h.sound.coherent o s hs), Observer.pushed, haccepts]
    rfl
  have hobs : (tl.updateObserver o fun s => (s.push e).1).observer? o = some (s.push e).1 := by
    rw [observer?_updateObserver, hs]
    simp
  refine ⟨h.pushed o e, ownersOf_updateObserver tl o o _, ?_⟩
  intro hdropped
  have hnone : (s.push e).1.dropped = 0 := by simpa [droppedBy, Module.droppedCount, hobs] using hdropped
  -- Nothing is dropped, so there was room.
  have hroom : (s.push e).1.queue = s.queue ++ [e] ∧ s.dropped = 0 := by
    have hrecords : (s.push e).1.queue = (s.asQueue.offer e).records := congrArg BoundedQueue.records hqueue
    have hrefused : (s.push e).1.dropped = (s.asQueue.offer e).refused :=
      congrArg BoundedQueue.refused hqueue
    rw [hnone] at hrefused
    unfold BoundedQueue.offer at hrecords hrefused
    split at hrefused
    · rename_i hlt
      rw [if_pos hlt] at hrecords
      exact ⟨hrecords, hrefused.symm⟩
    · cases hrefused
  refine ⟨?_, [], ?_, ?_⟩
  · simpa [droppedBy, Module.droppedCount, hs] using hroom.2
  · rw [List.append_nil]
    exact .refl _
  · rw [delivered, delivered, pending_eq hobs, pending_eq hs, hroom.1, List.append_nil, List.append_assoc]
    exact .refl _

theorem Hears.grows_pushed_other (h : tl.Hears o) {p : ObserverId} (hp : p ≠ o) (e : Entry) :
    Grows o 0 [] tl (tl.updateObserver p fun s => (s.push e).1) := by
  refine .of_frame (h.pushed p e) (ownersOf_updateObserver tl o p _) rfl rfl ?_
  rw [observer?_updateObserver]
  simp [hp]

theorem grows_push (h : hooks.Follow o) (hears : tl.Hears o) (p : ObserverId) {e : Entry}
    (he : e.entryType ∈ EntryType.readable) :
    Grows o 0 (if p = o then [e] else []) tl (tl.push hooks p e).1 := by
  have hset : Grows o 0 (if p = o then [e] else []) tl (tl.updateObserver p fun s => (s.push e).1) := by
    split
    · rename_i hp
      subst hp
      exact hears.grows_pushed he
    · rename_i hp
      exact hears.grows_pushed_other hp e
  cases hs : tl.observer? p with
  | none =>
    rw [updateObserver_of_none hs] at hset
    simp only [push, hs]
    exact hset
  | some s =>
    rw [← setObserver_eq hs fun s => (s.push e).1] at hset
    have hall := hset.trans (grows_react h p (s.push e) hset.hears)
    rw [List.append_nil] at hall
    simp only [push, hs]
    exact hall

/-- A turn gives up the observer that was kept alive for it. -/
theorem grows_offer (h : hooks.Follow o) (hears : tl.Hears o) (p : ObserverId) {e : Entry}
    (he : e.entryType ∈ EntryType.readable) (howned : (if p = o then 1 else 0) < tl.ownersOf o) :
    Grows o (if p = o then 1 else 0) (if p = o then [e] else []) tl (tl.offer hooks e p) := by
  have hpush := grows_push h hears p he
  have howners := hpush.owners
  have hreleased := ownersOf_releaseObserver (tl.push hooks p e).1 o p
  have hrelease : Grows o (if p = o then 1 else 0) [] (tl.push hooks p e).1 (tl.offer hooks e p) := by
    refine .of_frame ?_ ?_ rfl rfl (observer?_releaseObserver ..)
    · refine ⟨hpush.hears.sound.with_owners p (· - 1), hpush.hears.reachable, hpush.hears.unbounded, ?_,
        hpush.hears.registered, ?_⟩
      · show 0 < ((tl.push hooks p e).1.releaseObserver p).ownersOf o
        omega
      · show ∃ s, ((tl.push hooks p e).1.releaseObserver p).observer? o = some s ∧ _
        rw [observer?_releaseObserver]
        exact hpush.hears.state
    · show ((tl.push hooks p e).1.releaseObserver p).ownersOf o + _ = _
      omega
  have hall := hpush.trans hrelease
  rw [List.append_nil] at hall
  exact hall

/-- Each turn of the observer delivers the entry once. -/
theorem grows_offers (h : hooks.Follow o) {e : Entry} (he : e.entryType ∈ EntryType.readable)
    (os : List ObserverId) (hears : tl.Hears o) (howned : os.count o < tl.ownersOf o) :
    Grows o (os.count o) (List.replicate (os.count o) e) tl (os.foldl (offer hooks e) tl) := by
  induction os generalizing tl with
  | nil => exact .refl hears
  | cons p os ih =>
    have hcount : (p :: os).count o = os.count o + if p = o then 1 else 0 := by
      rw [List.count_cons]
      simp
    have hfirst := grows_offer h hears p he (by omega)
    have howners := hfirst.owners
    have hrest := ih hfirst.hears (by omega)
    have hall := hfirst.trans hrest
    rw [← hcount] at hall
    have howed : (if p = o then [e] else []) ++ List.replicate (os.count o) e =
        List.replicate ((p :: os).count o) e := by
      rw [hcount]
      split
      · rw [List.replicate_succ]
        rfl
      · rfl
    rw [howed] at hall
    exact hall

/-! ### Reports -/

theorem hears_retainAll (os : List ObserverId) (hears : tl.Hears o) :
    ∃ slots, os.foldl retainObserver tl = { tl with slots } ∧ ({ tl with slots } : Timeline Drains).Hears o ∧
      ({ tl with slots } : Timeline Drains).ownersOf o = tl.ownersOf o + os.count o := by
  induction os generalizing tl with
  | nil => exact ⟨tl.slots, rfl, hears, rfl⟩
  | cons p os ih =>
    obtain ⟨slots, heq, hend, howners⟩ := ih (hears.retainObserver p)
    refine ⟨slots, heq, hend, howners.trans ?_⟩
    rw [ownersOf_retainObserver tl hears.lt_length, List.count_cons]
    simp only [beq_iff_eq]
    omega

theorem grows_deliver (h : hooks.Follow o) {e : Entry} (he : e.entryType ∈ EntryType.readable)
    {os : List ObserverId} (hos : os.count o = 1) (hears : tl.Hears o) :
    Grows o 0 [e] tl (tl.deliver hooks e os) := by
  have howned := hears.owned
  obtain ⟨slots, heq, hkept, howners⟩ := hears_retainAll os hears
  have hobs := Interleaved.observer?_retainAll os tl o
  rw [heq] at hobs
  have hoffers := grows_offers h he os hkept (by omega)
  have hend := hoffers.owners
  have hsame : ({ tl with slots } : Timeline Drains).droppedBy o = tl.droppedBy o ∧
      ({ tl with slots } : Timeline Drains).delivered o = tl.delivered o := by
    constructor
    · show (Option.map _ _).getD 0 = (Option.map _ _).getD 0
      exact congrArg (fun s => (s.map (·.dropped)).getD 0) hobs
    · exact congrArg (fun s => tl.host.flatten ++ s.elim [] (·.queue)) hobs
  have hgains := hoffers.gains
  rw [hos, hsame.1, hsame.2] at hgains
  unfold deliver
  rw [heq]
  exact ⟨hoffers.hears, by omega, hgains⟩

theorem stored_append (r : Recorder) {e : Entry} (he : e.entryType ∈ EntryType.readable)
    (hunbounded : ∀ t ∈ EntryType.readable, (r.buffer t).capacity = none) :
    (EntryType.readable.flatMap fun t => (r.append e).1.select t none).Perm
      ((EntryType.readable.flatMap fun t => r.select t none) ++ [(r.append e).2.1]) := by
  have hself : (r.append e).1.select e.entryType none = r.select e.entryType none ++ [(r.append e).2.1] := by
    rw [Recorder.select_none, Recorder.select_none, Recorder.buffer_append_self]
    apply Buffer.entries_append_of_room
    intro c hc
    rw [hunbounded _ he] at hc
    exact nomatch hc
  have hother (t : EntryType) (ht : t ≠ e.entryType) : (r.append e).1.select t none = r.select t none := by
    rw [Recorder.select_none, Recorder.select_none, Recorder.buffer_append_of_ne r ht]
  rw [List.perm_iff_count]
  intro x
  simp only [EntryType.readable, List.flatMap_cons, List.flatMap_nil, List.append_nil, List.count_append]
  have htype : e.entryType = .mark ∨ e.entryType = .measure := by simpa [EntryType.readable] using he
  rcases htype with ht | ht
  · rw [ht] at hself
    rw [hself, hother .measure (by simp [ht]), List.count_append]
    omega
  · rw [ht] at hself
    rw [hself, hother .mark (by simp [ht]), List.count_append]
    omega

theorem Hears.append {ε : Type} {tl : Timeline ε} (h : tl.Hears o) (e : Entry) :
    ({ tl with recorder := (tl.recorder.append e).1 } : Timeline ε).Hears o := by
  obtain ⟨capacities, hreach⟩ := h.reachable
  refine ⟨h.sound.with_recorder (Recorder.ordered_append h.sound.ordered e) (Nat.le_succ _),
    ⟨capacities, hreach.append e⟩, ?_, h.owned, h.registered, h.state⟩
  intro t ht
  exact (Recorder.capacity_buffer_append tl.recorder e t).trans (h.unbounded t ht)

theorem Hears.prune {ε : Type} {tl : Timeline ε} (h : tl.Hears o) : tl.prune.Hears o :=
  ⟨h.sound.prune, h.reachable, h.unbounded, h.owned,
    Registry.mem_prune.mpr ⟨h.registered, (isLive_iff_owned tl o).mpr h.owned⟩, h.state⟩

/-- A report is delivered as often as it is stored, and so is what callbacks report meanwhile. -/
theorem grows_report (h : hooks.Follow o) (hears : tl.Hears o) {e : Entry}
    (he : e.entryType ∈ EntryType.readable) : Grows o 0 [] tl (tl.report hooks e).1 := by
  let kept : Timeline Drains := { tl with recorder := (tl.recorder.append e).1 }
  have hkept : kept.prune.Hears o := (hears.append e).prune
  have hreport : (tl.report hooks e).1 =
      kept.prune.deliver hooks (tl.recorder.append e).2.1 kept.prune.registry := by
    show ((kept.emit hooks _).fanOut hooks _) = _
    rw [emit_of_follow h]
    rfl
  have hcount : kept.prune.registry.count o = 1 := by
    rw [hkept.sound.nodup.count, if_pos hkept.registered]
  have hdeliver := grows_deliver h (e := (tl.recorder.append e).2.1) he hcount hkept
  have hstored : kept.prune.stored.Perm (tl.stored ++ [(tl.recorder.append e).2.1]) :=
    stored_append tl.recorder he hears.unbounded
  rw [hreport]
  refine ⟨hdeliver.hears, hdeliver.owners, ?_⟩
  intro hdropped
  obtain ⟨hnone, es, hs, hd⟩ := hdeliver.gains hdropped
  refine ⟨hnone, (tl.recorder.append e).2.1 :: es, ?_, ?_⟩
  · have hboth := hs.trans (hstored.append_right es)
    rw [List.append_assoc] at hboth
    exact hboth
  · rw [List.append_nil]
    rw [List.append_assoc] at hd
    exact hd

end Timeline

end PerfTimeline
