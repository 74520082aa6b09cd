import PerfTimeline.Proofs.Observer.Enrollment
import PerfTimeline.Proofs.Timeline.Pointwise

/-!
# What an operation asks of the registry

An operation makes at most one call to the registry of its timeline, and the registry serves it
(`registry_effect`). Beside the call it matters whether an observer is connected afterwards, and how a timeline
ages: observers are added and die, and the recorder may go out of reach.
-/

namespace PerfTimeline

variable {ε : Type} {o : ObserverId}

theorem Registry.mem_serve_iff {live : ObserverId → Bool} {r : Registry} {call : Call} (h : live o = true) :
    o ∈ r.serve live call ↔ call = .register o ∨ o ∈ r ∧ call ≠ .unregister o := by
  cases call with
  | register p => exact (mem_register_iff h).trans (by simp [or_comm])
  | unregister p => exact (mem_unregister_iff h).trans (by simp [ne_comm])
  | fanOut => exact mem_prune.trans (by simp [h])

namespace Timeline

variable {tl : Timeline ε} {op : Operation}

/-! ### The call of an operation -/

/-- The call that an operation makes to the registry. A subscription or disconnection makes one only where it
has an effect: if the observer is alive and connected and reaches the recorder. -/
def call? (tl : Timeline ε) : Operation → Option Registry.Call
  | .report _ | .reportEvent .. | .fanOut _ => some .fanOut
  | .observeOne o _ _ | .observeMany o _ =>
    if tl.isLive o && tl.isConnected o && tl.isOpen then some (.register o) else none
  | .disconnect o => if tl.isLive o && tl.isConnected o && tl.isOpen then some (.unregister o) else none
  | .register o => if tl.isLive o then some (.register o) else none
  | .unregister o => if tl.isLive o then some (.unregister o) else none
  | _ => none

theorem registry_effect (tl : Timeline ε) (op : Operation) :
    (tl.effect op).registry = (tl.call? op).elim tl.registry (tl.registry.serve tl.isLive) := by
  have enrolled (o : ObserverId) (f : Observer → Observer) :
      (if tl.isLive o && tl.isConnected o then (tl.enroll o).updateObserver o f else tl).registry =
        (if tl.isLive o && tl.isConnected o && tl.isOpen then some (Registry.Call.register o)
          else none).elim tl.registry (tl.registry.serve tl.isLive) := by
    unfold enroll
    cases tl.isLive o && tl.isConnected o with
    | true => cases tl.isOpen <;> rfl
    | false => rfl
  cases op with
  | observeOne o t options => exact enrolled o _
  | observeMany o types => exact enrolled o _
  | disconnect o =>
    rw [effect, call?]
    cases tl.isLive o && tl.isConnected o with
    | true => cases tl.isOpen <;> rfl
    | false => rfl
  | register o =>
    rw [effect, call?]
    cases tl.isLive o <;> rfl
  | unregister o =>
    rw [effect, call?]
    cases tl.isLive o <;> rfl
  | clone o => exact view_guarded (·.registry) rfl
  | take o sorted => exact view_guarded (·.registry) rfl
  | push o e => exact view_guarded (·.registry) rfl
  | _ => rfl

/-- Nobody is registered or removed but who is alive. -/
theorem isLive_of_call? {call : Registry.Call} (h : tl.call? op = some call) (ho : call.names o = true) :
    tl.isLive o = true := by
  have guarded {c : Bool} {p : ObserverId} {call' : Registry.Call}
      (h : (if c then some call' else none) = some call) (hnames : call'.names o = (p == o))
      (hc : c = true → tl.isLive p = true) : tl.isLive o = true := by
    split at h
    · rename_i htrue
      obtain rfl := Option.some.inj h
      have hp : p = o := by simpa [hnames] using ho
      exact hp ▸ hc htrue
    · cases h
  have first {a b c : Bool} (h : (a && b && c) = true) : a = true := by simp_all
  cases op with
  | report e => exact absurd (Option.some.inj h ▸ ho) nofun
  | reportEvent name start duration timing => exact absurd (Option.some.inj h ▸ ho) nofun
  | fanOut e => exact absurd (Option.some.inj h ▸ ho) nofun
  | observeOne p t options => exact guarded (p := p) h rfl first
  | observeMany p types => exact guarded (p := p) h rfl first
  | disconnect p => exact guarded (p := p) h rfl first
  | register p => exact guarded (p := p) h rfl id
  | unregister p => exact guarded (p := p) h rfl id
  | _ => cases h

/-- Nobody dies or comes to life by an operation that makes a call. -/
theorem isLive_effect_of_call? {call : Registry.Call} (h : tl.call? op = some call) :
    (tl.effect op).isLive = tl.isLive := by
  funext p
  cases op with
  | report e => exact isLive_announce ..
  | reportEvent name start duration timing => exact isLive_announce ..
  | fanOut e => exact isLive_announce ..
  | observeOne o t options => exact view_guarded (·.isLive p) (isLive_updated (enroll_eq o tl) o _ p)
  | observeMany o types => exact view_guarded (·.isLive p) (isLive_updated (enroll_eq o tl) o _ p)
  | disconnect o => exact view_guarded (·.isLive p) (isLive_updated (unregister_guarded_eq o tl) o _ p)
  | register o => exact view_guarded (·.isLive p) rfl
  | unregister o => exact view_guarded (·.isLive p) rfl
  | _ => cases h

/-- Who is alive and reaches the recorder is registered by a subscription while connected. -/
theorem call?_eq_register_iff (hop : op ≠ .register o) (hl : tl.isLive o = true) (hopen : tl.isOpen = true) :
    tl.call? op = some (.register o) ↔ op.subscribes o = true ∧ tl.isConnected o = true := by
  have subscribed (p : ObserverId) :
      (if tl.isLive p && tl.isConnected p && tl.isOpen then some (Registry.Call.register p) else none) =
        some (.register o) ↔ (p == o) = true ∧ tl.isConnected o = true := by
    by_cases hp : p = o
    · subst hp
      simp [hl, hopen]
    · simp [hp]
  cases op with
  | observeOne p t options => exact subscribed p
  | observeMany p types => exact subscribed p
  | register p =>
    have hp : p ≠ o := fun hp => hop (congrArg _ hp)
    simp [call?, Operation.subscribes, hp]
  | _ => simp [call?, Operation.subscribes]

/-- Who is alive and reaches the recorder is removed by the first disconnection. -/
theorem call?_eq_unregister_iff (hop : op ≠ .unregister o) (hl : tl.isLive o = true)
    (hopen : tl.isOpen = true) :
    tl.call? op = some (.unregister o) ↔ op = .disconnect o ∧ tl.isConnected o = true := by
  cases op with
  | disconnect p =>
    by_cases hp : p = o
    · subst hp
      simp [call?, hl, hopen]
    · simp [call?, hp]
  | unregister p =>
    have hp : p ≠ o := fun hp => hop (congrArg _ hp)
    simp [call?, hp]
  | _ => simp [call?]

/-- Only a drop ends a life. -/
theorem isLive_effect_of_ne_drop (hop : op ≠ .drop o) (hl : tl.isLive o = true) :
    (tl.effect op).isLive o = true := by
  have guarded {c : Bool} {t : Timeline ε} (ht : t.isLive o = tl.isLive o) :
      (if c then t else tl).isLive o = true := (view_guarded (·.isLive o) ht).trans hl
  cases op with
  | report e => exact (isLive_announce ..).trans hl
  | reportEvent name start duration timing => exact (isLive_announce ..).trans hl
  | fanOut e => exact (isLive_announce ..).trans hl
  | create limit route =>
    simp only [effect, create, isLive]
    rw [List.getElem?_append_left (lt_length_of_isLive hl)]
    exact hl
  | clone p =>
    rw [effect]
    split
    · unfold isLive at hl ⊢
      rw [retainObserver, List.getElem?_modify]
      cases hs : tl.slots[o]? with
      | none => simp [hs] at hl
      | some slot => by_cases hp : p = o <;> simp_all
    · exact hl
  | drop p =>
    have hp : p ≠ o := fun hp => hop (congrArg _ hp)
    simpa [effect, isLive, releaseObserver, List.getElem?_modify, hp] using hl
  | observeOne p t options => exact guarded (isLive_updated (enroll_eq p tl) p _ o)
  | observeMany p types => exact guarded (isLive_updated (enroll_eq p tl) p _ o)
  | take p sorted => exact guarded (isLive_updateObserver ..)
  | disconnect p => exact guarded (isLive_updated (unregister_guarded_eq p tl) p _ o)
  | push p e => exact guarded (isLive_updateObserver ..)
  | register p => exact guarded (t := tl.register p) rfl
  | unregister p => exact guarded (t := tl.unregister p) rfl
  | _ => exact hl

/-! ### Connection -/

theorem isDisconnected_effectOn_eq_false (tl : Timeline ε) {s : Observer} (hs : s.Coherent)
    (hd : s.isDisconnected = false) (hop : op ≠ .disconnect o) :
    (tl.effectOn o s op).isDisconnected = false := by
  have guarded {P : Prop} [Decidable P] {t : Observer} (ht : t.isDisconnected = false) :
      (if P then t else s).isDisconnected = false := by
    split <;> assumption
  cases op with
  | report e => exact guarded (Observer.isDisconnected_push hs hd _)
  | reportEvent name start duration timing => exact guarded (Observer.isDisconnected_push hs hd _)
  | push p e => exact guarded (Observer.isDisconnected_push hs hd e)
  | fanOut e => exact guarded (Observer.isDisconnected_push hs hd e)
  | observeOne p t options =>
    refine guarded ?_
    rw [Observer.observeOne_eq_fill hs hd]
    exact Observer.isDisconnected_fill _ _ hd
  | observeMany p types => exact guarded ((Observer.isDisconnected_observeMany s types).trans hd)
  | take p sorted => exact guarded ((Observer.isDisconnected_take s sorted).trans hd)
  | disconnect p =>
    have hp : p ≠ o := fun hp => hop (congrArg _ hp)
    simpa [effectOn, hp] using hd
  | _ => exact hd

/-- A living observer stays connected unless it is disconnected. -/
theorem isConnected_effect_iff (h : tl.Sound) (hl : tl.isLive o = true) (op : Operation) :
    (tl.effect op).isConnected o = true ↔ tl.isConnected o = true ∧ op ≠ .disconnect o := by
  have ho := lt_length_of_isLive hl
  constructor
  · intro hc
    refine ⟨isConnected_of_isConnected_effect ho hc, fun hop => ?_⟩
    have hne := disconnects_eq_false ho hl hc
    rw [hop] at hne
    simp [Operation.disconnects] at hne
  · rintro ⟨hc, hop⟩
    obtain ⟨s, hs, hd⟩ := exists_of_isConnected hc
    unfold isConnected
    rw [observer?_effect tl ho, hs]
    simp [isDisconnected_effectOn_eq_false tl (h.coherent o s hs) hd hop]

theorem isConnected_announce (h : tl.Sound) (e : Entry) (os : List ObserverId) (o : ObserverId) :
    (tl.announce e os).isConnected o = tl.isConnected o := by
  unfold isConnected
  rw [observer?_announce]
  cases hs : tl.observer? o with
  | none => rfl
  | some s =>
    rw [Option.map_some, Option.any_some, Option.any_some]
    split
    · cases hd : s.isDisconnected with
      | true => rw [Observer.push_of_isDisconnected hd, hd]
      | false => rw [Observer.isDisconnected_push (h.coherent o s hs) hd]
    · rfl

/-- An observer that nobody drops or disconnects stays alive and connected. -/
theorem alive_run {hooks : Hooks ε} (hp : hooks.Passive) (h : tl.Sound) (hl : tl.isLive o = true)
    (hc : tl.isConnected o = true) {ops : List Operation}
    (hops : ∀ op ∈ ops, op ≠ .drop o ∧ op ≠ .disconnect o) :
    (tl.run hooks ops).isLive o = true ∧ (tl.run hooks ops).isConnected o = true := by
  induction ops generalizing tl with
  | nil => exact ⟨hl, hc⟩
  | cons op ops ih =>
    obtain ⟨hdrop, hdisconnect⟩ := hops op List.mem_cons_self
    obtain ⟨host, heq⟩ := perform_eq hp h.nodup op
    have hl' : (tl.perform hooks op).1.isLive o = true := by
      rw [heq]
      exact isLive_effect_of_ne_drop hdrop hl
    have hc' : (tl.perform hooks op).1.isConnected o = true := by
      rw [heq]
      exact (isConnected_effect_iff h hl op).mpr ⟨hc, hdisconnect⟩
    exact ih (h.perform hp op) hl' hc' fun op' hm => hops op' (List.mem_cons_of_mem _ hm)

/-! ### Time -/

/-- What time makes of a timeline. Observers are added, and they die; the recorder may go out of reach. -/
structure Ages (tl tl' : Timeline ε) : Prop where
  sound : tl'.Sound
  isOpen (h : tl'.isOpen = true) : tl.isOpen = true
  length_le : tl.slots.length ≤ tl'.slots.length
  isLive {o : ObserverId} (ho : o < tl.slots.length) (h : tl'.isLive o = true) : tl.isLive o = true
  made {o : ObserverId} (ho : tl.slots.length ≤ o) (h : tl'.isLive o = true) : tl'.isConnected o = true

theorem Ages.with_host {t : Timeline ε} (h : tl.Ages t) (host : ε) : tl.Ages { t with host } :=
  ⟨h.sound.with_host host, h.isOpen, h.length_le, h.isLive, h.made⟩

/-- A timeline with the same observers, as to their number and their lives. -/
theorem Ages.of_same {t : Timeline ε} (hsound : t.Sound) (hopen : t.isOpen = tl.isOpen)
    (hlength : t.slots.length = tl.slots.length) (hlive : t.isLive = tl.isLive) : tl.Ages t where
  sound := hsound
  isOpen h := hopen ▸ h
  length_le := Nat.le_of_eq hlength.symm
  isLive _ h := hlive ▸ h
  made ho h := absurd (lt_length_of_isLive h) (Nat.not_lt_of_le (hlength ▸ ho))

theorem made_effect (ho : tl.slots.length ≤ o) (h : (tl.effect op).isLive o = true) :
    (tl.effect op).isConnected o = true := by
  have hlt := lt_length_of_isLive h
  -- Only a new observer has a number that nobody had before.
  have old {t : Timeline ε} (ht : t.slots.length = tl.slots.length) : ¬ o < t.slots.length :=
    Nat.not_lt_of_le (ht ▸ ho)
  have guarded {c : Bool} {t : Timeline ε} (ht : t.slots.length = tl.slots.length) :
      ¬ o < (if c then t else tl).slots.length := old (view_guarded (·.slots.length) ht)
  cases op with
  | create limit route =>
    have hlength : (tl.create limit route).1.slots.length = tl.slots.length + 1 := List.length_append
    have heq : o = tl.slots.length := Nat.le_antisymm (Nat.le_of_lt_succ (Nat.lt_of_lt_of_eq hlt hlength)) ho
    have hnew : (tl.create limit route).1.observer? o = some { limit } := by
      rw [observer?_append_slot, if_pos heq]
    simp only [effect, isConnected, hnew]
    rfl
  | report e => exact absurd hlt (old (length_slots_announce ..))
  | reportEvent name start duration timing => exact absurd hlt (old (length_slots_announce ..))
  | fanOut e => exact absurd hlt (old (length_slots_announce ..))
  | clone p => exact absurd hlt (guarded (List.length_modify ..))
  | drop p => exact absurd hlt (old (List.length_modify ..))
  | observeOne p t options => exact absurd hlt (guarded (length_slots_updated (enroll_eq p tl) p _))
  | observeMany p types => exact absurd hlt (guarded (length_slots_updated (enroll_eq p tl) p _))
  | take p sorted => exact absurd hlt (guarded (length_slots_updateObserver ..))
  | disconnect p => exact absurd hlt (guarded (length_slots_updated (unregister_guarded_eq p tl) p _))
  | push p e => exact absurd hlt (guarded (length_slots_updateObserver ..))
  | register p => exact absurd hlt (guarded rfl)
  | unregister p => exact absurd hlt (guarded rfl)
  | _ => exact absurd hlt (old rfl)

theorem ages_effect (h : tl.Sound) (op : Operation) : tl.Ages (tl.effect op) where
  sound := h.effect op
  isOpen hopen := by
    cases hk : op.keepsOpen with
    | true => exact isOpen_effect tl hk ▸ hopen
    | false =>
      obtain ⟨registry, slots, heq⟩ := effect_eq tl op
      rw [heq] at hopen
      simp only [isOpen, hk, Bool.false_eq_true, ite_false, bne_iff_ne] at hopen ⊢
      omega
  length_le := length_slots_effect tl op
  isLive ho hl := isLive_of_isLive_effect ho hl
  made := made_effect

end Timeline

end PerfTimeline
