import PerfTimeline.Proofs.Observer.Filling
import PerfTimeline.Proofs.Retention.Ordered
import PerfTimeline.Proofs.Timeline.Passive

/-!
# Sound timelines

What holds of every timeline that operations can lead to: its recorder is ordered, its registry lists
existing observers without repetition, its observers are coherent, and no watermark lies above the counter.
-/

namespace PerfTimeline

variable {ε : Type}

/-! ### Watermarks -/

namespace Observer

/-- No entry numbered above `n` counts as copied. -/
def MarkedUpTo (n : Nat) (o : Observer) : Prop := ∀ w, o.watermark = some w → w ≤ n

theorem MarkedUpTo.mono {m n : Nat} {o : Observer} (h : o.MarkedUpTo m) (hmn : m ≤ n) :
    o.MarkedUpTo n := fun w hw => Nat.le_trans (h w hw) hmn

theorem MarkedUpTo.hasCopied_eq_false {n : Nat} {o : Observer} {e : Entry} (h : o.MarkedUpTo n)
    (he : n < e.sequence) : o.hasCopied e = false := by
  unfold hasCopied
  cases hw : o.watermark with
  | none => rfl
  | some w =>
    have hle := h w hw
    have hlt : ¬ e.sequence ≤ w := by omega
    simp [hlt]

@[simp] theorem watermark_push (o : Observer) (e : Entry) : (o.push e).1.watermark = o.watermark := by
  have ha (o : Observer) : o.awaken.1.watermark = o.watermark := by
    obtain ⟨s, hs⟩ := o.awaken_eq
    rw [hs]
  have he : (o.enqueue e).1.watermark = o.watermark := by rw [enqueue_eq]
  unfold push
  split
  · cases o.hasRoom with
    | true => exact (ha (o.enqueue e).1).trans he
    | false => exact he
  · rfl

theorem markedUpTo_observeOne {n : Nat} {o : Observer} (h : o.Coherent) (hm : o.MarkedUpTo n)
    (t : EntryType) (options : ObserveOptions) {stored : Option (List Entry)}
    (hs : ∀ es, stored = some es → ∀ e ∈ es, e.sequence ≤ n) :
    (o.observeOne t options stored).1.MarkedUpTo n := by
  cases hc : o.isDisconnected with
  | true => rw [observeOne_of_isDisconnected hc]; exact hm
  | false =>
    rw [observeOne_eq_fill h hc]
    intro w hw
    -- The watermark is the sequence of an entry within reach.
    obtain ⟨e, he, rfl⟩ := List.mem_map.mp (List.max?_mem hw)
    split at he
    · cases stored with
      | none => simp at he
      | some es => exact hs es rfl e he
    · simp at he

theorem markedUpTo_observeMany {n : Nat} {o : Observer} (hm : o.MarkedUpTo n) (types : List EntryType) :
    (o.observeMany types).1.MarkedUpTo n := by
  unfold observeMany
  split
  · exact hm
  · exact nofun

theorem markedUpTo_disconnect {n : Nat} {o : Observer} (hm : o.MarkedUpTo n) :
    o.disconnect.1.MarkedUpTo n := by
  unfold disconnect
  split
  · exact hm
  · exact nofun

end Observer

namespace Timeline

/-! ### Sizes -/

@[simp] theorem length_slots_updateObserver (tl : Timeline ε) (o : ObserverId) (f : Observer → Observer) :
    (tl.updateObserver o f).slots.length = tl.slots.length := List.length_modify ..

@[simp] theorem length_slots_announce (tl : Timeline ε) (e : Entry) (os : List ObserverId) :
    (tl.announce e os).slots.length = tl.slots.length := List.length_mapIdx

theorem observer?_eq_none {tl : Timeline ε} {o : ObserverId} (h : tl.slots.length ≤ o) :
    tl.observer? o = none := by
  simp [observer?, h]

theorem lt_length_of_observer? {tl : Timeline ε} {o : ObserverId} {s : Observer}
    (h : tl.observer? o = some s) : o < tl.slots.length := by
  refine Nat.lt_of_not_le fun hle => ?_
  rw [observer?_eq_none hle] at h
  exact nomatch h

theorem lt_length_of_isLive {tl : Timeline ε} {o : ObserverId} (h : tl.isLive o = true) :
    o < tl.slots.length := by
  simp only [isLive, Option.any_eq_true] at h
  obtain ⟨s, hs, -⟩ := h
  exact (List.getElem?_eq_some_iff.mp hs).1

theorem exists_of_isConnected {tl : Timeline ε} {o : ObserverId} (h : tl.isConnected o = true) :
    ∃ s, tl.observer? o = some s ∧ s.isDisconnected = false := by
  unfold isConnected at h
  cases hs : tl.observer? o with
  | none => simp [hs] at h
  | some s => exact ⟨s, rfl, by simpa [hs] using h⟩

/-! ### Soundness -/

/-- What every reachable timeline satisfies. -/
structure Sound (tl : Timeline ε) : Prop where
  ordered : tl.recorder.Ordered
  nodup : tl.registry.Nodup
  known : ∀ o ∈ tl.registry, o < tl.slots.length
  coherent : ∀ o s, tl.observer? o = some s → s.Coherent
  marked : ∀ o s, tl.observer? o = some s → s.MarkedUpTo tl.recorder.sequence

theorem sound_new (capacities : Capacities) (host : ε) : (new capacities host).Sound where
  ordered := Recorder.ordered_new capacities
  nodup := List.nodup_nil
  known := nofun
  coherent o s h := by simp [new, observer?] at h
  marked o s h := by simp [new, observer?] at h

theorem Sound.with_host {tl : Timeline ε} (h : tl.Sound) (host : ε) :
    ({ tl with host } : Timeline ε).Sound := ⟨h.ordered, h.nodup, h.known, h.coherent, h.marked⟩

theorem Sound.with_recorder {tl : Timeline ε} (h : tl.Sound) {r : Recorder} (hr : r.Ordered)
    (hs : tl.recorder.sequence ≤ r.sequence) : ({ tl with recorder := r } : Timeline ε).Sound :=
  ⟨hr, h.nodup, h.known, h.coherent, fun o s ho => (h.marked o s ho).mono hs⟩

theorem Sound.with_registry {tl : Timeline ε} (h : tl.Sound) {os : Registry} (hn : os.Nodup)
    (hk : ∀ o ∈ os, o < tl.slots.length) : ({ tl with registry := os } : Timeline ε).Sound :=
  ⟨h.ordered, hn, hk, h.coherent, h.marked⟩

theorem Sound.updateObserver {tl : Timeline ε} (h : tl.Sound) {o : ObserverId} {f : Observer → Observer}
    (hf : ∀ s, s.Coherent → s.MarkedUpTo tl.recorder.sequence →
      (f s).Coherent ∧ (f s).MarkedUpTo tl.recorder.sequence) : (tl.updateObserver o f).Sound := by
  have key (p : ObserverId) (s : Observer) (hp : (tl.updateObserver o f).observer? p = some s) :
      s.Coherent ∧ s.MarkedUpTo tl.recorder.sequence := by
    rw [observer?_updateObserver] at hp
    obtain ⟨s', hs', rfl⟩ := Option.map_eq_some_iff.mp hp
    split
    · exact hf s' (h.coherent p s' hs') (h.marked p s' hs')
    · exact ⟨h.coherent p s' hs', h.marked p s' hs'⟩
  refine ⟨h.ordered, h.nodup, ?_, fun p s hp => (key p s hp).1, fun p s hp => (key p s hp).2⟩
  intro p hp
  rw [length_slots_updateObserver]
  exact h.known p hp

theorem Sound.announce {tl : Timeline ε} (h : tl.Sound) (e : Entry) (os : List ObserverId) :
    (tl.announce e os).Sound := by
  have key (p : ObserverId) (s : Observer) (hp : (tl.announce e os).observer? p = some s) :
      s.Coherent ∧ s.MarkedUpTo tl.recorder.sequence := by
    rw [observer?_announce] at hp
    obtain ⟨s', hs', rfl⟩ := Option.map_eq_some_iff.mp hp
    split
    · refine ⟨Observer.coherent_push (h.coherent p s' hs') e, ?_⟩
      intro w hw
      rw [Observer.watermark_push] at hw
      exact h.marked p s' hs' w hw
    · exact ⟨h.coherent p s' hs', h.marked p s' hs'⟩
  refine ⟨h.ordered, h.nodup, ?_, fun p s hp => (key p s hp).1, fun p s hp => (key p s hp).2⟩
  intro p hp
  rw [length_slots_announce]
  exact h.known p hp

theorem Sound.prune {tl : Timeline ε} (h : tl.Sound) : tl.prune.Sound :=
  h.with_registry (Registry.nodup_prune h.nodup _) fun o ho => h.known o (Registry.mem_prune.mp ho).1

theorem Sound.spread {tl : Timeline ε} (h : tl.Sound) (e : Entry) : (tl.spread e).Sound :=
  h.prune.announce e _

theorem Sound.publish {tl : Timeline ε} (h : tl.Sound) (e : Entry) : (tl.publish e).Sound :=
  (h.with_recorder (Recorder.ordered_append h.ordered e) (Nat.le_succ _)).spread _

theorem Sound.register {tl : Timeline ε} (h : tl.Sound) {o : ObserverId} (ho : o < tl.slots.length) :
    (tl.register o).Sound := by
  refine h.with_registry (Registry.nodup_register h.nodup _ _) ?_
  intro p hp
  unfold Registry.register at hp
  split at hp
  · exact h.known p hp
  · rcases List.mem_append.mp hp with hp | hp
    · exact h.known p (Registry.mem_prune.mp hp).1
    · rw [List.mem_singleton.mp hp]
      exact ho

theorem Sound.unregister {tl : Timeline ε} (h : tl.Sound) (o : ObserverId) : (tl.unregister o).Sound := by
  refine h.with_registry (Registry.nodup_unregister h.nodup _ _) ?_
  intro p hp
  exact h.known p (Registry.mem_prune.mp (List.mem_filter.mp hp).1).1

theorem Sound.enroll {tl : Timeline ε} (h : tl.Sound) {o : ObserverId} (ho : o < tl.slots.length) :
    (tl.enroll o).Sound := by
  unfold Timeline.enroll
  split
  · exact h.register ho
  · exact h

theorem le_counter_of_reachable {tl : Timeline ε} (h : tl.recorder.Ordered) (t : EntryType) (es : List Entry)
    (he : tl.reachable t = some es) : ∀ e ∈ es, e.sequence ≤ tl.recorder.sequence := by
  unfold Timeline.reachable at he
  split at he
  · rw [← Option.some.inj he, Recorder.select_none]
    exact h.le_counter t
  · exact nomatch he

theorem observer?_append_slot (tl : Timeline ε) (limit : Nat) (route : Route) (p : ObserverId) :
    (tl.create limit route).1.observer? p =
      if p = tl.slots.length then some { limit } else tl.observer? p := by
  by_cases hp : p = tl.slots.length
  · subst hp
    simp [create, observer?]
  · by_cases hlt : p < tl.slots.length
    · simp [create, observer?, hp, List.getElem?_append_left hlt]
    · have hle : tl.slots.length ≤ p := Nat.le_of_not_lt hlt
      have hlt : tl.slots.length + 1 ≤ p := Nat.lt_of_le_of_ne hle (Ne.symm hp)
      rw [if_neg hp, observer?_eq_none hle, observer?_eq_none]
      simpa [create] using hlt

theorem Sound.create {tl : Timeline ε} (h : tl.Sound) (limit : Nat) (route : Route) :
    (tl.create limit route).1.Sound := by
  refine ⟨h.ordered, h.nodup, ?_, ?_, ?_⟩
  · intro o ho
    have hlen : (tl.create limit route).1.slots.length = tl.slots.length + 1 := List.length_append
    rw [hlen]
    exact Nat.lt_succ_of_lt (h.known o ho)
  · intro o s ho
    rw [observer?_append_slot] at ho
    split at ho
    · rw [← Option.some.inj ho]
      exact Observer.coherent_new limit
    · exact h.coherent o s ho
  · intro o s ho
    rw [observer?_append_slot] at ho
    split at ho
    · rw [← Option.some.inj ho]
      exact nofun
    · exact h.marked o s ho

theorem Sound.with_owners {tl : Timeline ε} (h : tl.Sound) (o : ObserverId) (f : Nat → Nat) :
    ({ tl with slots := tl.slots.modify o fun s => { s with owners := f s.owners } } : Timeline ε).Sound := by
  have key (p : ObserverId) :
      ({ tl with slots := tl.slots.modify o fun s => { s with owners := f s.owners } } :
        Timeline ε).observer? p = tl.observer? p := by
    simp only [observer?, List.getElem?_modify]
    cases tl.slots[p]? <;> by_cases hp : o = p <;> simp [hp]
  refine ⟨h.ordered, h.nodup, ?_, fun p s hp => h.coherent p s (key p ▸ hp),
    fun p s hp => h.marked p s (key p ▸ hp)⟩
  intro p hp
  rw [List.length_modify]
  exact h.known p hp

/-- Every operation keeps a timeline sound. -/
theorem Sound.effect {tl : Timeline ε} (h : tl.Sound) (op : Operation) : (tl.effect op).Sound := by
  -- Most operations on an observer are done only if it is alive, or alive and connected.
  have guarded {c : Bool} {t : Timeline ε} (ht : c = true → t.Sound) : (if c then t else tl).Sound := by
    cases hc : c with
    | true => exact ht hc
    | false => exact h
  cases op with
  | report e => exact h.publish e
  | reportEvent name start duration timing =>
    exact (h.with_recorder (Recorder.ordered_countEvent h.ordered name) (Nat.le_refl _)).publish _
  | clear t name =>
    exact h.with_recorder (Recorder.ordered_clear h.ordered t name)
      (Nat.le_of_eq (Recorder.sequence_clear ..).symm)
  | clearAll =>
    exact h.with_recorder (Recorder.ordered_clearAll h.ordered)
      (Nat.le_of_eq (Recorder.sequence_clearAll _).symm)
  | resetDropped => exact h.with_recorder (Recorder.ordered_resetDropped h.ordered) (Nat.le_refl _)
  | clearCounts => exact h.with_recorder (Recorder.ordered_clearCounts h.ordered) (Nat.le_refl _)
  | create limit route => exact h.create limit route
  | clone o => exact guarded fun _ => h.with_owners o (· + 1)
  | drop o => exact h.with_owners o (· - 1)
  | observeOne o t options =>
    refine guarded fun hc => ?_
    have ho := lt_length_of_isLive (Bool.and_eq_true_iff.mp hc).1
    have hseq : (tl.enroll o).recorder = tl.recorder := by unfold Timeline.enroll; split <;> rfl
    refine (h.enroll ho).updateObserver fun s hs hm => ?_
    rw [hseq] at hm ⊢
    exact ⟨Observer.coherent_observeOne hs t options _,
      Observer.markedUpTo_observeOne hs hm t options (le_counter_of_reachable h.ordered t)⟩
  | observeMany o types =>
    refine guarded fun hc => ?_
    have ho := lt_length_of_isLive (Bool.and_eq_true_iff.mp hc).1
    exact (h.enroll ho).updateObserver fun s hs hm =>
      ⟨Observer.coherent_observeMany hs types, Observer.markedUpTo_observeMany hm types⟩
  | take o sorted =>
    exact guarded fun _ => h.updateObserver fun s hs hm => ⟨Observer.coherent_take hs sorted, hm⟩
  | disconnect o =>
    refine guarded fun _ => ?_
    have hleft : (if tl.isOpen then tl.unregister o else tl).Sound := by
      split
      · exact h.unregister o
      · exact h
    refine hleft.updateObserver fun s hs hm =>
      ⟨Observer.coherent_disconnect hs, Observer.markedUpTo_disconnect hm⟩
  | push o e =>
    refine guarded fun _ => h.updateObserver fun s hs hm => ⟨Observer.coherent_push hs e, ?_⟩
    intro w hw
    rw [Observer.watermark_push] at hw
    exact hm w hw
  | register o => exact guarded fun hc => h.register (lt_length_of_isLive hc)
  | unregister o => exact guarded fun _ => h.unregister o
  | fanOut e => exact h.spread e
  | close => exact ⟨h.ordered, h.nodup, h.known, h.coherent, h.marked⟩

theorem Sound.perform {hooks : Hooks ε} (hp : hooks.Passive) {tl : Timeline ε} (h : tl.Sound)
    (op : Operation) : (tl.perform hooks op).1.Sound := by
  obtain ⟨host, heq⟩ := perform_eq hp h.nodup op
  rw [heq]
  exact (h.effect op).with_host host

/-- Whatever a run consists of, it leads from a sound timeline to a sound one. -/
theorem Sound.run {hooks : Hooks ε} (hp : hooks.Passive) {tl : Timeline ε} (h : tl.Sound)
    (ops : List Operation) : (tl.run hooks ops).Sound :=
  run_induction (fun _ op _ h => h.perform hp op) h

end Timeline

end PerfTimeline
