import PerfTimeline.Proofs.Timeline.Sound

/-!
# What an operation does to one observer

`Timeline.effect` says what an operation does to a timeline. Here it is read off one observer at a time:
what becomes of its state, whether it stays alive, and whether it stays in the registry. The recorder and
its owners are read off in the same way.
-/

namespace PerfTimeline

variable {ε : Type}

namespace Registry

theorem mem_register_iff {live : ObserverId → Bool} {o p : ObserverId} {r : Registry}
    (h : live o = true) : o ∈ r.register live p ↔ o ∈ r ∨ p = o := by
  by_cases hp : p = o
  · subst hp
    exact iff_of_true (mem_register_self live p r) (.inr rfl)
  · have hne : o ≠ p := Ne.symm hp
    unfold register
    split
    · simp [hp]
    · simp [mem_prune, h, hp, hne]

theorem mem_unregister_iff {live : ObserverId → Bool} {o p : ObserverId} {r : Registry}
    (h : live o = true) : o ∈ r.unregister live p ↔ o ∈ r ∧ o ≠ p := by
  simp [unregister, mem_prune, h]

end Registry

namespace Timeline

/-! ### Operations that may do nothing -/

theorem view_guarded {α : Type} (view : Timeline ε → α) {c : Bool} {t tl : Timeline ε}
    (h : view t = view tl) : view (if c then t else tl) = view tl := by
  cases c with
  | true => exact h
  | false => rfl

theorem enroll_eq (o : ObserverId) (tl : Timeline ε) :
    ∃ registry, tl.enroll o = { tl with registry } := by
  unfold enroll
  split
  · exact ⟨_, rfl⟩
  · exact ⟨tl.registry, rfl⟩

theorem unregister_guarded_eq (o : ObserverId) (tl : Timeline ε) :
    ∃ registry, (if tl.isOpen then tl.unregister o else tl) = { tl with registry } := by
  split
  · exact ⟨_, rfl⟩
  · exact ⟨tl.registry, rfl⟩

section Updated

variable {t tl : Timeline ε} (h : ∃ registry, t = { tl with registry }) (p : ObserverId)
  (f : Observer → Observer)

include h

theorem length_slots_updated : (t.updateObserver p f).slots.length = tl.slots.length := by
  obtain ⟨registry, rfl⟩ := h
  exact length_slots_updateObserver ..

theorem isLive_updated (o : ObserverId) : (t.updateObserver p f).isLive o = tl.isLive o := by
  obtain ⟨registry, rfl⟩ := h
  exact isLive_updateObserver ..

end Updated

/-! ### The recorder -/

/-- Beside the registry and the observers, an operation acts on the recorder and its owners only. -/
theorem effect_eq (tl : Timeline ε) (op : Operation) :
    ∃ registry slots, tl.effect op =
      { recorder := op.onRecorder tl.recorder
        owners := if op.keepsOpen then tl.owners else tl.owners - 1
        registry, slots, host := tl.host } := by
  have guarded {c : Bool} {t : Timeline ε} (ht : ∃ registry slots, t = { tl with registry, slots }) :
      ∃ registry slots, (if c then t else tl) = { tl with registry, slots } := by
    cases c with
    | true => exact ht
    | false => exact ⟨tl.registry, tl.slots, rfl⟩
  have updated {t : Timeline ε} (ht : ∃ registry, t = { tl with registry }) (o : ObserverId)
      (f : Observer → Observer) :
      ∃ registry slots, t.updateObserver o f = { tl with registry, slots } := by
    obtain ⟨registry, rfl⟩ := ht
    exact ⟨_, _, rfl⟩
  cases op with
  | observeOne o t options => exact guarded (updated (enroll_eq o tl) o _)
  | observeMany o types => exact guarded (updated (enroll_eq o tl) o _)
  | disconnect o => exact guarded (updated (unregister_guarded_eq o tl) o _)
  | clone o => exact guarded ⟨_, _, rfl⟩
  | take o sorted => exact guarded ⟨_, _, rfl⟩
  | push o e => exact guarded ⟨_, _, rfl⟩
  | register o => exact guarded ⟨_, _, rfl⟩
  | unregister o => exact guarded ⟨_, _, rfl⟩
  | _ => exact ⟨_, _, rfl⟩

theorem recorder_effect (tl : Timeline ε) (op : Operation) :
    (tl.effect op).recorder = op.onRecorder tl.recorder := by
  obtain ⟨registry, slots, h⟩ := effect_eq tl op
  rw [h]

theorem entries_onRecorder_sublist {op : Operation} (hop : op.reported? = none) (r : Recorder)
    (t : EntryType) : ((op.onRecorder r).buffer t).entries.Sublist (r.buffer t).entries := by
  cases op with
  | report e => cases hop
  | reportEvent name start duration timing => cases hop
  | clear u name => exact Recorder.entries_clear_sublist r u name t
  | clearAll => exact Recorder.entries_clearAll_sublist r t
  | resetDropped =>
    rw [Operation.onRecorder, Recorder.buffer_resetDropped]
    exact List.Sublist.refl _
  | _ => exact List.Sublist.refl _

theorem sequence_onRecorder {op : Operation} (hop : op.reported? = none) (r : Recorder) :
    (op.onRecorder r).sequence = r.sequence := by
  cases op with
  | report e => cases hop
  | reportEvent name start duration timing => cases hop
  | clear u name => exact Recorder.sequence_clear r u name
  | clearAll => exact Recorder.sequence_clearAll r
  | _ => rfl

theorem onRecorder_of_reported {op : Operation} {e : Entry} (h : op.reported? = some e) (r : Recorder) :
    ∃ counts, op.onRecorder r = (Recorder.append { r with counts } e).1 := by
  cases op with
  | report x => exact ⟨r.counts, by rw [← Option.some.inj h]; rfl⟩
  | reportEvent name start duration timing =>
    exact ⟨r.counts.bump name, by rw [← Option.some.inj h]; rfl⟩
  | _ => cases h

theorem capacity_onRecorder (op : Operation) (r : Recorder) (t : EntryType) :
    ((op.onRecorder r).buffer t).capacity = (r.buffer t).capacity := by
  cases op with
  | report e => exact Recorder.capacity_buffer_append r e t
  | reportEvent name start duration timing => exact Recorder.capacity_buffer_append (r.countEvent name) _ t
  | clear u name => exact Recorder.capacity_buffer_clear r u name t
  | clearAll => exact Recorder.capacity_buffer_clearAll r t
  | resetDropped => exact Recorder.capacity_buffer_resetDropped r t
  | _ => rfl

theorem isOpen_effect (tl : Timeline ε) {op : Operation} (hop : op.keepsOpen = true) :
    (tl.effect op).isOpen = tl.isOpen := by
  obtain ⟨registry, slots, h⟩ := effect_eq tl op
  rw [h]
  unfold isOpen
  dsimp only
  rw [if_pos hop]

/-! ### The state of an observer -/

/-- Whether an observer is offered what is reported. -/
def listens (tl : Timeline ε) (o : ObserverId) : Bool := tl.registry.contains o && tl.isLive o

theorem mem_registry_prune (tl : Timeline ε) (o : ObserverId) :
    o ∈ tl.prune.registry ↔ tl.listens o = true := by
  unfold prune listens
  rw [Registry.mem_prune, Bool.and_eq_true, List.contains_iff_mem]

/-- What an operation makes of the state `s` of observer `o`. -/
def effectOn (tl : Timeline ε) (o : ObserverId) (s : Observer) : Operation → Observer
  | .report e => if tl.listens o then (s.push (e.withSequence (tl.recorder.sequence + 1))).1 else s
  | .reportEvent name start duration timing =>
    if tl.listens o then
      (s.push ((Entry.event name start duration timing).withSequence (tl.recorder.sequence + 1))).1
    else s
  | .observeOne p t options =>
    if p = o ∧ tl.isLive o then (s.observeOne t options (tl.reachable t)).1 else s
  | .observeMany p types => if p = o ∧ tl.isLive o then (s.observeMany types).1 else s
  | .take p sorted => if p = o ∧ tl.isLive o then (s.take sorted).1 else s
  | .disconnect p => if p = o ∧ tl.isLive o then s.disconnect.1 else s
  | .push p e => if p = o ∧ tl.isLive o then (s.push e).1 else s
  | .fanOut e => if tl.listens o then (s.push e).1 else s
  | _ => s

theorem observer?_spread (tl : Timeline ε) (e : Entry) (o : ObserverId) :
    (tl.spread e).observer? o =
      (tl.observer? o).map fun s => if tl.listens o then (s.push e).1 else s := by
  unfold spread
  rw [observer?_announce]
  congr 1
  funext s
  by_cases h : tl.listens o = true
  · rw [if_pos h, if_pos ((mem_registry_prune tl o).mpr h)]
  · rw [if_neg h, if_neg fun hm => h ((mem_registry_prune tl o).mp hm)]

theorem observer?_guarded (tl : Timeline ε) (o p : ObserverId) (f : Observer → Observer) :
    (if tl.isLive p then tl.updateObserver p f else tl).observer? o =
      (tl.observer? o).map fun s => if p = o ∧ tl.isLive o = true then f s else s := by
  by_cases hp : p = o
  · subst hp
    cases hl : tl.isLive p with
    | true => simp [observer?_updateObserver]
    | false => simp
  · cases tl.isLive p with
    | true => simp [observer?_updateObserver, hp]
    | false => simp [hp]

/-- An update that is made only of a living and connected observer, seen from observer `o`. Disconnected
observers need no exception where the update leaves them as they are. -/
theorem observer?_guarded_connected {tl t : Timeline ε} (p : ObserverId) {f : Observer → Observer}
    (ht : ∀ o, t.observer? o = tl.observer? o) (hf : ∀ s, s.isDisconnected = true → f s = s)
    (o : ObserverId) :
    (if tl.isLive p && tl.isConnected p then t.updateObserver p f else tl).observer? o =
      (tl.observer? o).map fun s => if p = o ∧ tl.isLive o = true then f s else s := by
  by_cases hp : p = o
  · subst hp
    cases hl : tl.isLive p with
    | false => simp
    | true =>
      cases hs : tl.observer? p with
      | none => simp [isConnected, hs]
      | some s =>
        cases hd : s.isDisconnected with
        | true => simp [isConnected, hs, hd, hf]
        | false => simp [isConnected, hs, hd, observer?_updateObserver, ht]
  · cases tl.isLive p && tl.isConnected p with
    | true => simp [observer?_updateObserver, hp, ht]
    | false => simp [hp]

/-- The state of an observer after an operation. -/
theorem observer?_effect (tl : Timeline ε) {o : ObserverId} (ho : o < tl.slots.length)
    (op : Operation) :
    (tl.effect op).observer? o = (tl.observer? o).map fun s => tl.effectOn o s op := by
  have same : tl.observer? o = (tl.observer? o).map fun s => s := by simp
  cases op with
  | report e => exact observer?_spread _ _ o
  | reportEvent name start duration timing => exact observer?_spread _ _ o
  | clear t name => exact same
  | clearAll => exact same
  | resetDropped => exact same
  | clearCounts => exact same
  | create limit route =>
    have hne : o ≠ tl.slots.length := Nat.ne_of_lt ho
    rw [effect, observer?_append_slot, if_neg hne]
    exact same
  | clone p =>
    rw [effect]
    split
    · rw [observer?_retainObserver]
      exact same
    · exact same
  | drop p =>
    rw [effect, observer?_releaseObserver]
    exact same
  | observeOne p t options =>
    exact observer?_guarded_connected p (observer?_enroll tl p)
      (fun s hs => by rw [Observer.observeOne_of_isDisconnected hs]) o
  | observeMany p types =>
    exact observer?_guarded_connected p (observer?_enroll tl p)
      (fun s hs => by rw [Observer.observeMany_of_isDisconnected hs]) o
  | take p sorted => exact observer?_guarded tl o p _
  | disconnect p =>
    refine observer?_guarded_connected p ?_ (fun s hs => by simp [Observer.disconnect, hs]) o
    intro q
    split <;> rfl
  | push p e => exact observer?_guarded tl o p _
  | register p =>
    rw [effect]
    split <;> exact same
  | unregister p =>
    rw [effect]
    split <;> exact same
  | fanOut e => exact observer?_spread tl e o
  | close => exact same

theorem effectOn_of_reported (tl : Timeline ε) (o : ObserverId) (s : Observer) {op : Operation} {e : Entry}
    (h : op.reported? = some e) : tl.effectOn o s op =
      if tl.listens o then (s.push (e.withSequence (tl.recorder.sequence + 1))).1 else s := by
  cases op with
  | report x => rw [← Option.some.inj h]; rfl
  | reportEvent name start duration timing => rw [← Option.some.inj h]; rfl
  | _ => cases h

/-! ### Life -/

theorem length_slots_effect (tl : Timeline ε) (op : Operation) :
    tl.slots.length ≤ (tl.effect op).slots.length := by
  have guarded {c : Bool} {t : Timeline ε} (ht : t.slots.length = tl.slots.length) :
      tl.slots.length ≤ (if c then t else tl).slots.length :=
    Nat.le_of_eq (view_guarded (·.slots.length) ht).symm
  cases op with
  | report e => exact Nat.le_of_eq (length_slots_announce ..).symm
  | reportEvent name start duration timing => exact Nat.le_of_eq (length_slots_announce ..).symm
  | fanOut e => exact Nat.le_of_eq (length_slots_announce ..).symm
  | create limit route => simp [effect, create]
  | clone o => exact guarded (List.length_modify ..)
  | drop o => exact Nat.le_of_eq (List.length_modify ..).symm
  | observeOne o t options => exact guarded (length_slots_updated (enroll_eq o tl) o _)
  | observeMany o types => exact guarded (length_slots_updated (enroll_eq o tl) o _)
  | take o sorted => exact guarded (length_slots_updateObserver ..)
  | disconnect o => exact guarded (length_slots_updated (unregister_guarded_eq o tl) o _)
  | push o e => exact guarded (length_slots_updateObserver ..)
  | register o => exact guarded rfl
  | unregister o => exact guarded rfl
  | _ => exact Nat.le_refl _

theorem isLive_of_isLive_effect {tl : Timeline ε} {o : ObserverId} (ho : o < tl.slots.length)
    {op : Operation} (h : (tl.effect op).isLive o = true) : tl.isLive o = true := by
  have guarded {c : Bool} {t : Timeline ε} (ht : t.isLive o = tl.isLive o)
      (h : (if c then t else tl).isLive o = true) : tl.isLive o = true :=
    (view_guarded (·.isLive o) ht).symm.trans h
  cases op with
  | report e => exact isLive_announce .. ▸ h
  | reportEvent name start duration timing => exact isLive_announce .. ▸ h
  | fanOut e => exact isLive_announce .. ▸ h
  | create limit route =>
    simp only [effect, create, isLive] at h
    rw [List.getElem?_append_left ho] at h
    exact h
  | clone p =>
    rw [effect] at h
    split at h
    · rename_i hp
      by_cases hpo : p = o
      · exact hpo ▸ hp
      · simpa [isLive, retainObserver, List.getElem?_modify, hpo] using h
    · exact h
  | drop p =>
    simp only [effect, isLive, releaseObserver, List.getElem?_modify] at h
    unfold isLive
    cases hs : tl.slots[o]? with
    | none => simp [hs] at h
    | some slot =>
      by_cases hpo : p = o
      · simp only [hs, hpo, ite_true, Option.map_eq_map, Option.map_some, Option.any_some,
          bne_iff_ne] at h ⊢
        omega
      · simpa [hs, hpo] using h
  | observeOne p t options => exact guarded (isLive_updated (enroll_eq p tl) p _ o) h
  | observeMany p types => exact guarded (isLive_updated (enroll_eq p tl) p _ o) h
  | take p sorted => exact guarded (isLive_updateObserver ..) h
  | disconnect p => exact guarded (isLive_updated (unregister_guarded_eq p tl) p _ o) h
  | push p e => exact guarded (isLive_updateObserver ..) h
  | register p => exact guarded (t := tl.register p) rfl h
  | unregister p => exact guarded (t := tl.unregister p) rfl h
  | _ => exact h

/-! ### Connection -/

theorem isDisconnected_effectOn (tl : Timeline ε) (o : ObserverId) {s : Observer}
    (h : s.isDisconnected = true) (op : Operation) : (tl.effectOn o s op).isDisconnected = true := by
  have guarded {P : Prop} [Decidable P] {t : Observer} (ht : t.isDisconnected = true) :
      (if P then t else s).isDisconnected = true := by
    split <;> assumption
  have pushed (e : Entry) : (s.push e).1.isDisconnected = true := by
    rw [Observer.push_of_isDisconnected h]
    exact h
  cases op with
  | report e => exact guarded (pushed _)
  | reportEvent name start duration timing => exact guarded (pushed _)
  | push p e => exact guarded (pushed e)
  | fanOut e => exact guarded (pushed e)
  | observeOne p t options =>
    refine guarded ?_
    rw [Observer.observeOne_of_isDisconnected h]
    exact h
  | observeMany p types =>
    exact guarded ((Observer.isDisconnected_observeMany s types).trans h)
  | take p sorted =>
    exact guarded ((Observer.isDisconnected_take s sorted).trans h)
  | disconnect p => exact guarded (Observer.isDisconnected_disconnect s)
  | _ => exact h

theorem isConnected_of_isConnected_effect {tl : Timeline ε} {o : ObserverId}
    (ho : o < tl.slots.length) {op : Operation} (h : (tl.effect op).isConnected o = true) :
    tl.isConnected o = true := by
  unfold isConnected at *
  rw [observer?_effect tl ho] at h
  cases hs : tl.observer? o with
  | none => simp [hs] at h
  | some s =>
    cases hd : s.isDisconnected with
    | true => simp [hs, isDisconnected_effectOn tl o hd op] at h
    | false => simp [hd]

theorem disconnects_eq_false {tl : Timeline ε} {o : ObserverId} (ho : o < tl.slots.length)
    {op : Operation} (hl : tl.isLive o = true) (h : (tl.effect op).isConnected o = true) :
    op.disconnects o = false := by
  cases op with
  | disconnect p =>
    unfold isConnected at h
    rw [observer?_effect tl ho] at h
    by_cases hp : p = o
    · cases hs : tl.observer? o with
      | none => simp [hs] at h
      | some s => simp [hs, effectOn, hp, hl, Observer.isDisconnected_disconnect] at h
    · simp [Operation.disconnects, hp]
  | _ => rfl

/-! ### Whole runs -/

theorem length_slots_perform {hooks : Hooks ε} (hp : hooks.Passive) {tl : Timeline ε} (h : tl.Sound)
    (op : Operation) : tl.slots.length ≤ (tl.perform hooks op).1.slots.length := by
  obtain ⟨host, heq⟩ := perform_eq hp h.nodup op
  rw [heq]
  exact length_slots_effect tl op

theorem length_slots_run {hooks : Hooks ε} (hp : hooks.Passive) {tl : Timeline ε} (h : tl.Sound)
    (ops : List Operation) : tl.slots.length ≤ (tl.run hooks ops).slots.length := by
  induction ops generalizing tl with
  | nil => exact Nat.le_refl _
  | cons op ops ih => exact Nat.le_trans (length_slots_perform hp h op) (ih (h.perform hp op))

theorem isLive_of_isLive_perform {hooks : Hooks ε} (hp : hooks.Passive) {tl : Timeline ε}
    (h : tl.Sound) {o : ObserverId} (ho : o < tl.slots.length) {op : Operation}
    (hl : (tl.perform hooks op).1.isLive o = true) : tl.isLive o = true := by
  obtain ⟨host, heq⟩ := perform_eq hp h.nodup op
  rw [heq] at hl
  exact isLive_of_isLive_effect ho hl

theorem isConnected_of_isConnected_perform {hooks : Hooks ε} (hp : hooks.Passive) {tl : Timeline ε}
    (h : tl.Sound) {o : ObserverId} (ho : o < tl.slots.length) {op : Operation}
    (hc : (tl.perform hooks op).1.isConnected o = true) : tl.isConnected o = true := by
  obtain ⟨host, heq⟩ := perform_eq hp h.nodup op
  rw [heq] at hc
  exact isConnected_of_isConnected_effect ho hc

theorem isLive_of_isLive_run {hooks : Hooks ε} (hp : hooks.Passive) {tl : Timeline ε} (h : tl.Sound)
    {o : ObserverId} (ho : o < tl.slots.length) {ops : List Operation}
    (hl : (tl.run hooks ops).isLive o = true) : tl.isLive o = true := by
  induction ops generalizing tl with
  | nil => exact hl
  | cons op ops ih =>
    have hnext := ih (h.perform hp op) (Nat.lt_of_lt_of_le ho (length_slots_perform hp h op)) hl
    exact isLive_of_isLive_perform hp h ho hnext

theorem isConnected_of_isConnected_run {hooks : Hooks ε} (hp : hooks.Passive) {tl : Timeline ε}
    (h : tl.Sound) {o : ObserverId} (ho : o < tl.slots.length) {ops : List Operation}
    (hc : (tl.run hooks ops).isConnected o = true) : tl.isConnected o = true := by
  induction ops generalizing tl with
  | nil => exact hc
  | cons op ops ih =>
    have hnext := ih (h.perform hp op) (Nat.lt_of_lt_of_le ho (length_slots_perform hp h op)) hc
    exact isConnected_of_isConnected_perform hp h ho hnext

theorem isOpen_run {hooks : Hooks ε} (hp : hooks.Passive) {tl : Timeline ε} (h : tl.Sound)
    {ops : List Operation} (hops : ∀ op ∈ ops, op.keepsOpen = true) :
    (tl.run hooks ops).isOpen = tl.isOpen := by
  induction ops generalizing tl with
  | nil => rfl
  | cons op ops ih =>
    rw [run_cons, ih (h.perform hp op) fun op' hm => hops op' (List.mem_cons_of_mem _ hm)]
    obtain ⟨host, heq⟩ := perform_eq hp h.nodup op
    rw [heq]
    exact isOpen_effect tl (hops op List.mem_cons_self)

theorem capacity_new (capacities : Capacities) (host : ε) (t : EntryType) :
    ((new capacities host).recorder.buffer t).capacity = capacities.get t := by
  cases t <;> rfl

theorem capacity_run {hooks : Hooks ε} (hp : hooks.Passive) {tl : Timeline ε} (h : tl.Sound)
    (ops : List Operation) (t : EntryType) :
    ((tl.run hooks ops).recorder.buffer t).capacity = (tl.recorder.buffer t).capacity := by
  induction ops generalizing tl with
  | nil => rfl
  | cons op ops ih =>
    obtain ⟨host, heq⟩ := perform_eq hp h.nodup op
    have hrec : (tl.perform hooks op).1.recorder = op.onRecorder tl.recorder := by
      rw [heq]
      exact recorder_effect tl op
    rw [run_cons, ih (h.perform hp op), hrec, capacity_onRecorder]

/-! ### Registration -/

/-- While the recorder is in reach, a subscription puts an observer into the registry, and nothing but a
disconnection or its death takes it out. -/
theorem mem_registry_effect {tl : Timeline ε} {o : ObserverId} (ho : o < tl.slots.length)
    {op : Operation} (hop : op.isDirect = false) (hopen : tl.isOpen = true)
    (hlive : (tl.effect op).isLive o = true) (hconn : (tl.effect op).isConnected o = true) :
    o ∈ (tl.effect op).registry ↔ o ∈ tl.registry ∨ op.subscribes o = true := by
  have hl : tl.isLive o = true := isLive_of_isLive_effect ho hlive
  have hc : tl.isConnected o = true := isConnected_of_isConnected_effect ho hconn
  have same : o ∈ tl.registry ↔ o ∈ tl.registry ∨ false = true := by simp
  -- A subscription of another observer counts only if that one is alive and connected.
  have enrolled (p : ObserverId) (f : Observer → Observer) :
      o ∈ (if tl.isLive p && tl.isConnected p then (tl.enroll p).updateObserver p f else tl).registry ↔
        o ∈ tl.registry ∨ (p == o) = true := by
    have hmem : o ∈ ((tl.enroll p).updateObserver p f).registry ↔ o ∈ tl.registry ∨ p = o := by
      unfold enroll
      rw [if_pos hopen]
      exact Registry.mem_register_iff hl
    by_cases hp : p = o
    · subst hp
      simpa [hl, hc] using hmem
    · cases tl.isLive p && tl.isConnected p with
      | true => simpa [hp] using hmem
      | false => simp [hp]
  have pruned : o ∈ tl.prune.registry ↔ o ∈ tl.registry ∨ false = true := by
    rw [mem_registry_prune, listens, hl]
    simp
  cases op with
  | report e => exact pruned
  | reportEvent name start duration timing => exact pruned
  | observeOne p t options => exact enrolled p _
  | observeMany p types => exact enrolled p _
  | disconnect p =>
    have hp : o ≠ p := by
      have hne : p ≠ o := by simpa [Operation.disconnects] using disconnects_eq_false ho hl hconn
      exact hne.symm
    have hmem : o ∈ (tl.unregister p).registry ↔ o ∈ tl.registry := by
      have h : o ∈ tl.registry.unregister tl.isLive p ↔ o ∈ tl.registry ∧ o ≠ p :=
        Registry.mem_unregister_iff hl
      exact h.trans (and_iff_left hp)
    rw [effect]
    split
    · exact hmem.trans same
    · exact same
  | clone p =>
    rw [effect]
    split <;> exact same
  | take p sorted =>
    rw [effect]
    split <;> exact same
  | push p e => cases hop
  | register p => cases hop
  | unregister p => cases hop
  | fanOut e => cases hop
  | _ => exact same

end Timeline

end PerfTimeline
