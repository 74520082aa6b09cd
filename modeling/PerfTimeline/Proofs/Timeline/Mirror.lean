import PerfTimeline.Proofs.Timeline.Pointwise
import PerfTimeline.Proofs.Timeline.Transcript

/-!
# A run of one observer

An observer can be given a run of its own, from which everything is left out that concerns other observers.
The two timelines differ in the numbers of observers, in what their registries hold and in when these are
pruned. `Mirrors` is what stays alike: the recorder with its owners, the slot of the observer and, while it
is alive, whether it is registered. An operation that is kept preserves it on both sides, and one that is
left out on the one side.
-/

namespace PerfTimeline

namespace Operation

/-- Whether an operation is about the timeline as a whole or about observer `o`. Making an observer is about
that observer. -/
def concerns (o : ObserverId) : Operation → Bool
  | create .. => false
  | clone p | drop p | observeOne p _ _ | observeMany p _ | take p _ | disconnect p => p == o
  | push p _ | register p | unregister p => p == o
  | _ => true

/-- The same operation on the observer with another number. -/
def toward (q : ObserverId) : Operation → Operation
  | clone _ => clone q
  | drop _ => drop q
  | observeOne _ t options => observeOne q t options
  | observeMany _ types => observeMany q types
  | take _ sorted => take q sorted
  | disconnect _ => disconnect q
  | push _ e => push q e
  | register _ => register q
  | unregister _ => unregister q
  | op => op

@[simp] theorem makes_toward (q : ObserverId) (op : Operation) : (op.toward q).makes = op.makes := by
  cases op <;> rfl

@[simp] theorem isDirect_toward (q : ObserverId) (op : Operation) :
    (op.toward q).isDirect = op.isDirect := by
  cases op <;> rfl

theorem makes_of_concerns {o : ObserverId} {op : Operation} (h : op.concerns o = true) :
    op.makes = false := by
  cases op with
  | create limit route => cases h
  | _ => rfl

end Operation

namespace Timeline

variable {ε : Type}

/-! ### What becomes of a slot -/

def ownersOn (o : ObserverId) (owners : Nat) : Operation → Nat
  | .clone p => if p = o ∧ owners ≠ 0 then owners + 1 else owners
  | .drop p => if p = o then owners - 1 else owners
  | _ => owners

/-- What an operation makes of the slot of observer `o`. -/
def slotOn (tl : Timeline ε) (o : ObserverId) (s : Slot) (op : Operation) : Slot :=
  { observer := tl.effectOn o s.observer op, route := s.route, owners := ownersOn o s.owners op }

theorem slot_updateObserver (tl : Timeline ε) (p o : ObserverId) (f : Observer → Observer) :
    (tl.updateObserver p f).slots[o]? =
      tl.slots[o]?.map fun s => { s with observer := if p = o then f s.observer else s.observer } := by
  simp only [updateObserver, List.getElem?_modify]
  cases tl.slots[o]? <;> by_cases hp : p = o <;> simp [hp]

theorem slot_spread (tl : Timeline ε) (e : Entry) (o : ObserverId) :
    (tl.spread e).slots[o]? = tl.slots[o]?.map fun s =>
      { s with observer := if tl.listens o then (s.observer.push e).1 else s.observer } := by
  have hlisted := mem_registry_prune tl o
  simp only [spread, announce, List.getElem?_mapIdx]
  show (tl.slots[o]?.map fun s => if o ∈ tl.prune.registry then _ else s) = _
  cases tl.slots[o]? with
  | none => rfl
  | some s => by_cases hl : tl.listens o = true <;> simp [hlisted, hl]

theorem isLive_eq_of_slot {tl : Timeline ε} {o : ObserverId} {s : Slot} (hs : tl.slots[o]? = some s) :
    tl.isLive o = (s.owners != 0) := by
  simp [isLive, hs]

theorem isConnected_eq_of_slot {tl : Timeline ε} {o : ObserverId} {s : Slot}
    (hs : tl.slots[o]? = some s) : tl.isConnected o = !s.observer.isDisconnected := by
  simp [isConnected, observer?, hs]

/-- An update made under a condition that comes down to whether the observer is alive. -/
theorem slot_guarded {tl t : Timeline ε} (p o : ObserverId) {c : Bool} {f : Observer → Observer}
    (ht : t.slots = tl.slots) (hc : ∀ s, tl.slots[p]? = some s →
      (if c then f s.observer else s.observer) = if tl.isLive p then f s.observer else s.observer) :
    (if c then t.updateObserver p f else tl).slots[o]? = tl.slots[o]?.map fun s =>
      { s with observer := if p = o ∧ tl.isLive o = true then f s.observer else s.observer } := by
  have hslot : (if c then t.updateObserver p f else tl).slots[o]? = tl.slots[o]?.map fun s =>
      { s with observer := if p = o ∧ c = true then f s.observer else s.observer } := by
    cases c with
    | true => simp [slot_updateObserver, ht]
    | false => simp
  rw [hslot]
  cases hs : tl.slots[o]? with
  | none => rfl
  | some s =>
    by_cases hp : p = o
    · subst hp
      simp [hc s hs]
    · simp [hp]

/-- Where a disconnected observer is left alone, the update would do nothing to it. -/
theorem slot_connected {tl t : Timeline ε} (p o : ObserverId) {f : Observer → Observer}
    (ht : t.slots = tl.slots) (hf : ∀ s, s.isDisconnected = true → f s = s) :
    (if tl.isLive p && tl.isConnected p then t.updateObserver p f else tl).slots[o]? =
      tl.slots[o]?.map fun s =>
        { s with observer := if p = o ∧ tl.isLive o = true then f s.observer else s.observer } := by
  refine slot_guarded p o ht ?_
  intro s hs
  rw [isConnected_eq_of_slot hs]
  cases tl.isLive p with
  | false => rfl
  | true =>
    cases hd : s.observer.isDisconnected with
    | true => simp [hf _ hd]
    | false => rfl

theorem slot_create_of_ne {tl : Timeline ε} {o : ObserverId} (hne : o ≠ tl.slots.length) (limit : Nat)
    (route : Route) : (tl.create limit route).1.slots[o]? = tl.slots[o]? := by
  rw [create, List.getElem?_append]
  split
  · rfl
  · rename_i hlt
    have hle : tl.slots.length ≤ o := Nat.le_of_not_lt hlt
    have hpos : 0 < o - tl.slots.length := Nat.sub_pos_of_lt (Nat.lt_of_le_of_ne hle (Ne.symm hne))
    rw [List.getElem?_eq_none hle, List.getElem?_eq_none hpos]

theorem slot_clone (tl : Timeline ε) (p o : ObserverId) :
    (tl.effect (.clone p)).slots[o]? = tl.slots[o]?.map fun s => tl.slotOn o s (.clone p) := by
  rw [effect]
  by_cases hp : p = o
  · subst hp
    cases hs : tl.slots[p]? with
    | none => simp [isLive, hs]
    | some s =>
      rw [isLive_eq_of_slot hs]
      obtain ⟨observer, route, owners⟩ := s
      cases owners with
      | zero => simp [hs, slotOn, effectOn, ownersOn]
      | succ n => simp [retainObserver, hs, slotOn, effectOn, ownersOn]
  · cases tl.isLive p with
    | true => simp [retainObserver, slotOn, effectOn, ownersOn, hp]
    | false => simp [slotOn, effectOn, ownersOn, hp]

/-- The slot of an observer after an operation that does not make it. -/
theorem slot_effect (tl : Timeline ε) {o : ObserverId} {op : Operation} (hop : op.isDirect = false)
    (hmade : op.makes = true → o ≠ tl.slots.length) :
    (tl.effect op).slots[o]? = tl.slots[o]?.map fun s => tl.slotOn o s op := by
  have same : tl.slots[o]? = tl.slots[o]?.map fun s => s := by simp
  cases op with
  | report e => exact slot_spread _ _ o
  | reportEvent name start duration timing => exact slot_spread _ _ o
  | create limit route => exact (slot_create_of_ne (hmade rfl) limit route).trans same
  | clone p => exact slot_clone tl p o
  | drop p =>
    simp only [effect, releaseObserver, List.getElem?_modify]
    cases tl.slots[o]? <;> by_cases hp : p = o <;> simp [hp, slotOn, effectOn, ownersOn]
  | observeOne p t options =>
    refine slot_connected p o ?_ fun s hs => by rw [Observer.observeOne_of_isDisconnected hs]
    unfold enroll
    split <;> rfl
  | observeMany p types =>
    refine slot_connected p o ?_ fun s hs => by rw [Observer.observeMany_of_isDisconnected hs]
    unfold enroll
    split <;> rfl
  | take p sorted => exact slot_guarded p o rfl fun _ _ => rfl
  | disconnect p =>
    refine slot_connected p o ?_ fun s hs => by simp [Observer.disconnect, hs]
    split <;> rfl
  | push p e => cases hop
  | register p => cases hop
  | unregister p => cases hop
  | fanOut e => cases hop
  | _ => exact same

theorem length_slots_effect_eq (tl : Timeline ε) {op : Operation} (hop : op.isDirect = false) :
    (tl.effect op).slots.length = tl.slots.length + op.makes.toNat := by
  cases hm : op.makes with
  | true =>
    cases op with
    | create limit route => exact List.length_append
    | _ => cases hm
  | false =>
    -- The same numbers have a slot as before.
    have hsame (o : ObserverId) : (tl.effect op).slots.length ≤ o ↔ tl.slots.length ≤ o := by
      rw [← List.getElem?_eq_none_iff, ← List.getElem?_eq_none_iff, slot_effect tl hop (by simp [hm])]
      exact Option.map_eq_none_iff
    have hle := (hsame _).mp (Nat.le_refl _)
    have hge := (hsame _).mpr (Nat.le_refl _)
    exact Nat.le_antisymm hge hle

/-! ### Registration -/

/-- Whether `o` is registered after an operation, given whether it was before. -/
def registeredOn (tl : Timeline ε) (o : ObserverId) (registered : Prop) : Operation → Prop
  | .observeOne p _ _ => registered ∨ p = o ∧ tl.isConnected o = true ∧ tl.isOpen = true
  | .observeMany p _ => registered ∨ p = o ∧ tl.isConnected o = true ∧ tl.isOpen = true
  | .disconnect p => registered ∧ ¬(p = o ∧ tl.isConnected o = true ∧ tl.isOpen = true)
  | _ => registered

section Living

variable {tl : Timeline ε} {o : ObserverId}

theorem mem_registry_enrolled (hl : tl.isLive o = true) (p : ObserverId) (f : Observer → Observer) :
    o ∈ (if tl.isLive p && tl.isConnected p then (tl.enroll p).updateObserver p f else tl).registry ↔
      o ∈ tl.registry ∨ p = o ∧ tl.isConnected o = true ∧ tl.isOpen = true := by
  have hmem : o ∈ ((tl.enroll p).updateObserver p f).registry ↔
      o ∈ tl.registry ∨ p = o ∧ tl.isOpen = true := by
    unfold enroll
    cases tl.isOpen with
    | true => simpa [updateObserver, register] using Registry.mem_register_iff hl
    | false => simp [updateObserver]
  by_cases hp : p = o
  · subst hp
    cases hc : tl.isConnected p with
    | true => simpa [hl] using hmem
    | false => simp [hl]
  · split
    · simpa [hp] using hmem
    · simp [hp]

theorem mem_registry_disconnect (hl : tl.isLive o = true) (p : ObserverId) :
    o ∈ (tl.effect (.disconnect p)).registry ↔
      o ∈ tl.registry ∧ ¬(p = o ∧ tl.isConnected o = true ∧ tl.isOpen = true) := by
  have hmem : o ∈ (tl.unregister p).registry ↔ o ∈ tl.registry ∧ o ≠ p := Registry.mem_unregister_iff hl
  rw [effect]
  by_cases hp : p = o
  · subst hp
    cases tl.isConnected p with
    | true =>
      cases tl.isOpen with
      | true => simpa [hl, updateObserver] using hmem
      | false => simp [hl, updateObserver]
    | false => simp
  · split
    · cases tl.isOpen with
      | true => simpa [hp, Ne.symm hp, updateObserver] using hmem
      | false => simp [hp, updateObserver]
    · simp [hp]

/-- The registration of a living observer after an operation. Whom the registry loses by being pruned is dead. -/
theorem registered_effect {op : Operation} (hop : op.isDirect = false) (hl : tl.isLive o = true) :
    o ∈ (tl.effect op).registry ↔ tl.registeredOn o (o ∈ tl.registry) op := by
  have pruned : o ∈ tl.prune.registry ↔ o ∈ tl.registry := by
    rw [mem_registry_prune, listens, hl]
    simp
  cases op with
  | report e => exact pruned
  | reportEvent name start duration timing => exact pruned
  | observeOne p t options => exact mem_registry_enrolled hl p _
  | observeMany p types => exact mem_registry_enrolled hl p _
  | disconnect p => exact mem_registry_disconnect hl p
  | clone p =>
    rw [effect]
    split <;> exact Iff.rfl
  | take p sorted =>
    rw [effect]
    split <;> exact Iff.rfl
  | push p e => cases hop
  | register p => cases hop
  | unregister p => cases hop
  | fanOut e => cases hop
  | _ => exact Iff.rfl

end Living

/-! ### Mirrored timelines -/

/-- What observer `o` of one timeline has in common with the only observer of another one. -/
structure Mirrors (o : ObserverId) (tl tl' : Timeline ε) : Prop where
  sound : tl.Sound
  sound' : tl'.Sound
  recorder : tl'.recorder = tl.recorder
  owners : tl'.owners = tl.owners
  slot : tl'.slots[0]? = tl.slots[o]?
  registered : tl.isLive o = true → (0 ∈ tl'.registry ↔ o ∈ tl.registry)

variable {tl tl' : Timeline ε} {o : ObserverId}

theorem Mirrors.observer? (h : Mirrors o tl tl') : tl'.observer? 0 = tl.observer? o := by
  unfold Timeline.observer?
  rw [h.slot]

theorem Mirrors.isLive (h : Mirrors o tl tl') : tl'.isLive 0 = tl.isLive o := by
  unfold Timeline.isLive
  rw [h.slot]

theorem Mirrors.isConnected (h : Mirrors o tl tl') : tl'.isConnected 0 = tl.isConnected o := by
  unfold Timeline.isConnected
  rw [h.observer?]

theorem Mirrors.isOpen (h : Mirrors o tl tl') : tl'.isOpen = tl.isOpen := by
  unfold Timeline.isOpen
  rw [h.owners]

theorem Mirrors.reachable (h : Mirrors o tl tl') (t : EntryType) : tl'.reachable t = tl.reachable t := by
  unfold Timeline.reachable
  rw [h.isOpen, h.recorder]

theorem Mirrors.listens (h : Mirrors o tl tl') : tl'.listens 0 = tl.listens o := by
  unfold Timeline.listens
  rw [h.isLive]
  cases hl : tl.isLive o with
  | false => simp
  | true => simp [h.registered hl]

theorem isLive_before_effect {op : Operation} (hop : op.isDirect = false)
    (hmade : op.makes = true → o ≠ tl.slots.length)
    (hl : (tl.effect op).isLive o = true) : tl.isLive o = true := by
  have hslot := slot_effect tl hop hmade
  cases hs : tl.slots[o]? with
  | none => simp [Timeline.isLive, hslot, hs] at hl
  | some s =>
    rw [hs] at hslot
    rw [isLive_eq_of_slot hslot, bne_iff_ne] at hl
    rw [isLive_eq_of_slot hs, bne_iff_ne]
    intro h0
    apply hl
    cases op <;> simp [Timeline.slotOn, ownersOn, h0]

/-- What is kept happens to both timelines alike. -/
theorem Mirrors.slotOn (h : Mirrors o tl tl') {s : Slot} {op : Operation} (hop : op.isDirect = false)
    (hc : op.concerns o = true) : tl'.slotOn 0 s (op.toward 0) = tl.slotOn o s op := by
  have hlive := h.isLive
  have hlistens := h.listens
  have hrec := h.recorder
  have hreach := h.reachable
  cases op <;> simp_all [Operation.concerns, Operation.toward, Timeline.slotOn, effectOn, ownersOn,
    Operation.isDirect]

theorem Mirrors.registeredOn (h : Mirrors o tl tl') {op : Operation} (hop : op.isDirect = false)
    (hc : op.concerns o = true) (registered : Prop) :
    tl'.registeredOn 0 registered (op.toward 0) ↔ tl.registeredOn o registered op := by
  have hconnected := h.isConnected
  have hopen := h.isOpen
  cases op <;> simp_all [Operation.concerns, Operation.toward, Timeline.registeredOn,
    Operation.isDirect]

theorem Mirrors.effect (h : Mirrors o tl tl') {op : Operation} (hop : op.isDirect = false)
    (hc : op.concerns o = true) : Mirrors o (tl.effect op) (tl'.effect (op.toward 0)) := by
  have hop' : (op.toward 0).isDirect = false := (Operation.isDirect_toward 0 op).trans hop
  have hmakes : op.makes = false := Operation.makes_of_concerns hc
  have hmade : op.makes = true → o ≠ tl.slots.length := by simp [hmakes]
  have hmade' : (op.toward 0).makes = true → 0 ≠ tl'.slots.length := by simp [hmakes]
  have hslot := slot_effect tl hop hmade
  have hslot' := slot_effect tl' hop' hmade'
  obtain ⟨_, _, heq⟩ := effect_eq tl op
  obtain ⟨_, _, heq'⟩ := effect_eq tl' (op.toward 0)
  have honrecorder : (op.toward 0).onRecorder = op.onRecorder := by cases op <;> rfl
  have hkeeps : (op.toward 0).keepsOpen = op.keepsOpen := by cases op <;> rfl
  -- the recorder, its owners, the slot and the registration, each by its own equation
  refine ⟨h.sound.effect op, h.sound'.effect _, ?_, ?_, ?_, ?_⟩
  · rw [heq, heq', honrecorder, h.recorder]
  · rw [heq, heq', hkeeps, h.owners]
  · rw [hslot, hslot', h.slot]
    cases tl.slots[o]? with
    | none => rfl
    | some s => exact congrArg some (h.slotOn hop hc)
  · intro hl
    have hlive : tl.isLive o = true := isLive_before_effect hop hmade hl
    rw [registered_effect hop hlive, registered_effect hop' (h.isLive.trans hlive), h.registeredOn hop hc,
      h.registered hlive]

/-- What concerns another observer leaves the mirrored one as it is. -/
theorem Mirrors.effect_other (h : Mirrors o tl tl') {op : Operation} (hop : op.isDirect = false)
    (hc : op.concerns o = false) (hmade : op.makes = true → o ≠ tl.slots.length) :
    Mirrors o (tl.effect op) tl' := by
  have hslot := slot_effect tl hop hmade
  obtain ⟨_, _, heq⟩ := effect_eq tl op
  have honrecorder (r : Recorder) : op.onRecorder r = r := by cases op <;> first | rfl | cases hc
  have hkeeps : op.keepsOpen = true := by cases op <;> first | rfl | cases hc
  have hown (s : Slot) : tl.slotOn o s op = s := by
    cases op <;> simp_all [Operation.concerns, Timeline.slotOn, effectOn, ownersOn, Operation.isDirect]
  have hregistered (P : Prop) : tl.registeredOn o P op ↔ P := by
    cases op <;> simp_all [Operation.concerns, Timeline.registeredOn, Operation.isDirect]
  refine ⟨h.sound.effect op, h.sound', ?_, ?_, ?_, ?_⟩
  · rw [heq, h.recorder]
    exact (honrecorder _).symm
  · rw [heq, if_pos hkeeps, h.owners]
  · rw [hslot, h.slot]
    simp [hown]
  · intro hl
    have hlive : tl.isLive o = true := isLive_before_effect hop hmade hl
    rw [registered_effect hop hlive, hregistered, h.registered hlive]

end Timeline

end PerfTimeline
