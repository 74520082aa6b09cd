import PerfTimeline.Proofs.Observer.Reference
import PerfTimeline.Proofs.Timeline.Pointwise

/-!
# Reports in pieces

A report takes several pieces: its entry is stored, the observers to be offered the entry are listed, and
then each of them has its turn. Between two pieces anything may happen that a callback can bring about,
other reports and their pieces included. `Interleaved` is a timeline with the reports that have been begun;
an `Action` is one piece of a report or an operation that has no pieces. Callbacks leave nothing to do here:
what they do is among the actions that follow.
-/

namespace PerfTimeline

/-- Whether an operation is one piece and neither goes past reports and subscriptions nor gives the recorder
up. -/
def Operation.isAtomic (op : Operation) : Bool :=
  op.reported?.isNone && !op.isDirect && op.keepsOpen

/-- A report that has been begun. -/
structure Delivery where
  /-- The entry as stored. -/
  entry : Entry
  /-- The observers whose turn is still to come, once they have been listed. -/
  awaiting : Option (List ObserverId) := none

/-- Whether an observer has had its turn, or has been left out. -/
def Delivery.isOver (o : ObserverId) (d : Delivery) : Bool := d.awaiting.any fun os => !os.contains o

/-- A timeline with all reports begun so far, in order. -/
structure Interleaved where
  timeline : Timeline Unit
  deliveries : List Delivery := []

inductive Action where
  /-- Count an input event, which is reported next. -/
  | count (name : String)
  /-- Begin a report. -/
  | store (e : Entry)
  /-- List the observers of report `i` and own them. Each is dropped some time after its turn. -/
  | list (i : Nat)
  /-- Offer the entry of report `i` to the next observer. -/
  | turn (i : Nat)
  | operate (op : Operation) (h : op.isAtomic = true)

namespace Action

/-- Whether an action subscribes `o`. -/
def subscribes (o : ObserverId) : Action → Bool
  | operate op _ => op.subscribes o
  | _ => false

/-- Whether an action disconnects `o`. -/
def disconnects (o : ObserverId) : Action → Bool
  | operate op _ => op.disconnects o
  | _ => false

end Action

namespace Interleaved

def new (capacities : Capacities) : Interleaved := { timeline := .new capacities () }

/-- Whose turn is next in report `i`, with the entry to be offered. -/
def turn? (m : Interleaved) (i : Nat) : Option (Entry × ObserverId) :=
  match m.deliveries[i]? with
  | some ⟨e, some (o :: _)⟩ => some (e, o)
  | _ => none

/-- Listing the observers of a report: the dead leave the registry, the others are owned. -/
def listed (tl : Timeline Unit) : Timeline Unit :=
  tl.prune.registry.foldl Timeline.retainObserver tl.prune

def step (m : Interleaved) : Action → Interleaved
  | .count name =>
    { m with timeline := { m.timeline with recorder := m.timeline.recorder.countEvent name } }
  | .store e =>
    let (timeline, stored) := m.timeline.store .quiet e
    { timeline, deliveries := m.deliveries ++ [{ entry := stored }] }
  | .list i =>
    match m.deliveries[i]? with
    | some ⟨e, none⟩ =>
      { timeline := listed m.timeline
        deliveries := m.deliveries.set i ⟨e, some m.timeline.prune.registry⟩ }
    | _ => m
  | .turn i =>
    match m.deliveries[i]? with
    | some ⟨e, some (o :: rest)⟩ =>
      { timeline := (m.timeline.push .quiet o e).1, deliveries := m.deliveries.set i ⟨e, some rest⟩ }
    | _ => m
  | .operate op _ => { m with timeline := (m.timeline.perform .quiet op).1 }

def run (m : Interleaved) (actions : List Action) : Interleaved := actions.foldl step m

@[simp] theorem run_nil (m : Interleaved) : m.run [] = m := rfl

@[simp] theorem run_cons (m : Interleaved) (a : Action) (actions : List Action) :
    m.run (a :: actions) = (m.step a).run actions := rfl

theorem run_append (m : Interleaved) (a b : List Action) : m.run (a ++ b) = (m.run a).run b :=
  List.foldl_append

/-- What is collected from the actions of a run. -/
def gather {α : Type} (f : Interleaved → Action → List α) (m : Interleaved) : List Action → List α
  | [] => []
  | a :: actions => f m a ++ gather f (m.step a) actions

/-! ### Single actions -/

theorem quiet_push (tl : Timeline Unit) (o : ObserverId) (e : Entry) :
    (tl.push .quiet o e).1 = tl.updateObserver o fun s => (s.push e).1 := by
  obtain ⟨host, h⟩ := Timeline.push_eq Hooks.passive_quiet o e tl
  exact h

theorem quiet_perform {tl : Timeline Unit} (hn : tl.registry.Nodup) (op : Operation) :
    (tl.perform .quiet op).1 = tl.effect op := by
  obtain ⟨host, h⟩ := Timeline.perform_eq Hooks.passive_quiet hn op
  exact h

theorem isLive_retainObserver {ε : Type} {tl : Timeline ε} {p : ObserverId} (h : tl.isLive p = true)
    (o : ObserverId) : (tl.retainObserver p).isLive o = tl.isLive o := by
  by_cases hp : p = o
  · subst hp
    rw [h]
    unfold Timeline.isLive at *
    simp only [Timeline.retainObserver, List.getElem?_modify]
    cases hs : tl.slots[p]? with
    | none => simp [hs] at h
    | some slot => simp
  · simp [Timeline.isLive, Timeline.retainObserver, hp]

theorem isLive_retainAll {ε : Type} {os : List ObserverId} {tl : Timeline ε}
    (hos : ∀ p ∈ os, tl.isLive p = true) (o : ObserverId) :
    (os.foldl Timeline.retainObserver tl).isLive o = tl.isLive o := by
  induction os generalizing tl with
  | nil => rfl
  | cons p os ih =>
    have hp := isLive_retainObserver (hos p List.mem_cons_self)
    have hrest : ∀ q ∈ os, (tl.retainObserver p).isLive q = true := by
      intro q hq
      rw [hp q]
      exact hos q (List.mem_cons_of_mem _ hq)
    rw [List.foldl_cons, ih hrest, hp]

theorem observer?_retainAll {ε : Type} (os : List ObserverId) (tl : Timeline ε) (o : ObserverId) :
    (os.foldl Timeline.retainObserver tl).observer? o = tl.observer? o := by
  induction os generalizing tl with
  | nil => rfl
  | cons p os ih => rw [List.foldl_cons, ih, Timeline.observer?_retainObserver]

theorem listed_eq {tl : Timeline Unit} (hn : tl.registry.Nodup) :
    ∃ slots, listed tl = { tl.prune with slots } ∧ slots.length = tl.slots.length :=
  ⟨_, Timeline.retain_eq (Registry.nodup_prune hn _) tl.prune, List.length_mapIdx⟩

theorem observer?_listed (tl : Timeline Unit) (o : ObserverId) :
    (listed tl).observer? o = tl.observer? o := observer?_retainAll _ tl.prune o

theorem isLive_listed (tl : Timeline Unit) (o : ObserverId) : (listed tl).isLive o = tl.isLive o :=
  isLive_retainAll (fun _ hp => (Registry.mem_prune.mp hp).2) o

theorem sound_listed {tl : Timeline Unit} (h : tl.Sound) : (listed tl).Sound := by
  have key (os : List ObserverId) (t : Timeline Unit) (ht : t.Sound) :
      (os.foldl Timeline.retainObserver t).Sound := by
    induction os generalizing t with
    | nil => exact ht
    | cons p os ih => exact ih _ (ht.with_owners p (· + 1))
  exact key _ _ h.prune

theorem step_operate {m : Interleaved} (hn : m.timeline.registry.Nodup) (op : Operation)
    (hop : op.isAtomic = true) :
    m.step (.operate op hop) = { m with timeline := m.timeline.effect op } := by
  rw [← quiet_perform hn op]
  rfl

/-- What an action makes of the state `s` of observer `o`. -/
def stepOn (m : Interleaved) (o : ObserverId) (s : Observer) : Action → Observer
  | .turn i =>
    match m.turn? i with
    | some (e, p) => if p = o then (s.push e).1 else s
    | none => s
  | .operate op _ => m.timeline.effectOn o s op
  | _ => s

theorem observer?_step {m : Interleaved} (h : m.timeline.Sound) {o : ObserverId}
    (ho : o < m.timeline.slots.length) (a : Action) :
    (m.step a).timeline.observer? o = (m.timeline.observer? o).map fun s => m.stepOn o s a := by
  have same : m.timeline.observer? o = (m.timeline.observer? o).map fun s => s := by simp
  cases a with
  | count name => exact same
  | store e => exact same
  | list i =>
    unfold step
    dsimp only
    split
    · exact (observer?_listed m.timeline o).trans same
    · exact same
  | turn i =>
    unfold step stepOn turn?
    dsimp only
    split
    · rw [quiet_push, Timeline.observer?_updateObserver]
    · exact same
  | operate op hop =>
    rw [step_operate h.nodup]
    exact Timeline.observer?_effect m.timeline ho op

theorem observer?_step_eq {m : Interleaved} (h : m.timeline.Sound) {o : ObserverId} {s : Observer}
    (hs : m.timeline.observer? o = some s) (a : Action) :
    (m.step a).timeline.observer? o = some (m.stepOn o s a) := by
  rw [observer?_step h (Timeline.lt_length_of_observer? hs), hs]
  rfl

/-! ### Life and registration -/

theorem isLive_of_isLive_step {m : Interleaved} (h : m.timeline.Sound) {o : ObserverId}
    (ho : o < m.timeline.slots.length) {a : Action} (hl : (m.step a).timeline.isLive o = true) :
    m.timeline.isLive o = true := by
  cases a with
  | count name => exact hl
  | store e => exact hl
  | list i =>
    unfold step at hl
    dsimp only at hl
    split at hl
    · exact (isLive_listed m.timeline o).symm.trans hl
    · exact hl
  | turn i =>
    unfold step at hl
    dsimp only at hl
    split at hl
    · rw [quiet_push, Timeline.isLive_updateObserver] at hl
      exact hl
    · exact hl
  | operate op hop =>
    rw [step_operate h.nodup] at hl
    exact Timeline.isLive_of_isLive_effect ho hl

theorem mem_registry_step {m : Interleaved} (h : m.timeline.Sound) {o : ObserverId}
    (ho : o < m.timeline.slots.length) {a : Action} (hopen : m.timeline.isOpen = true)
    (hl : (m.step a).timeline.isLive o = true) (hc : (m.step a).timeline.isConnected o = true)
    (hr : o ∈ m.timeline.registry) : o ∈ (m.step a).timeline.registry := by
  have hlive := isLive_of_isLive_step h ho hl
  cases a with
  | count name => exact hr
  | store e => exact hr
  | list i =>
    unfold step
    dsimp only
    split
    · obtain ⟨slots, heq, -⟩ := listed_eq h.nodup
      rw [heq]
      exact Registry.mem_prune.mpr ⟨hr, hlive⟩
    · exact hr
  | turn i =>
    unfold step
    dsimp only
    split
    · rw [quiet_push]
      exact hr
    · exact hr
  | operate op hop =>
    have hdirect : op.isDirect = false := by
      simp only [Operation.isAtomic, Bool.and_eq_true, Bool.not_eq_true'] at hop
      exact hop.1.2
    rw [step_operate h.nodup] at hl hc ⊢
    exact (Timeline.mem_registry_effect ho hdirect hopen hl hc).mpr (.inl hr)

/-! ### Sound machines -/

/-- The entries of the reports begun so far, as stored. -/
def entries (m : Interleaved) : List Entry := m.deliveries.map (·.entry)

/-- What every reachable machine satisfies. Report `i` is that of the entry numbered `i + 1`, nobody waits
twice for the same turn, and whatever is stored has been reported. -/
structure Sound (m : Interleaved) : Prop where
  timeline : m.timeline.Sound
  isOpen : m.timeline.isOpen = true
  counted : m.deliveries.length = m.timeline.recorder.sequence
  numbered : ∀ i d, m.deliveries[i]? = some d → d.entry.sequence = i + 1
  awaited : ∀ d ∈ m.deliveries, ∀ os, d.awaiting = some os → os.Nodup
  kept : ∀ t, ∀ e ∈ (m.timeline.recorder.buffer t).entries, e ∈ m.entries

theorem sound_new (capacities : Capacities) : (new capacities).Sound where
  timeline := Timeline.sound_new capacities ()
  isOpen := rfl
  counted := rfl
  numbered i d h := by simp [new] at h
  awaited d h := nomatch h
  kept t e h := by
    have h : e ∈ ((Recorder.new capacities).buffer t).entries := h
    rw [Recorder.entries_new] at h
    exact nomatch h

theorem entries_set {ds : List Delivery} {i : Nat} {d : Delivery} (hd : ds[i]? = some d)
    (awaiting : Option (List ObserverId)) :
    (ds.set i ⟨d.entry, awaiting⟩).map (·.entry) = ds.map (·.entry) := by
  apply List.ext_getElem?
  intro j
  simp only [List.getElem?_map, List.getElem?_set]
  by_cases hij : i = j
  · subst hij
    obtain ⟨hlt, rfl⟩ := List.getElem?_eq_some_iff.mp hd
    simp [hlt]
  · simp [hij]

theorem Sound.set {m : Interleaved} (h : m.Sound) {i : Nat} {d : Delivery}
    (hd : m.deliveries[i]? = some d) {os : List ObserverId} (hos : os.Nodup) {tl : Timeline Unit}
    (htl : tl.Sound) (hopen : tl.isOpen = true) (hrec : tl.recorder = m.timeline.recorder) :
    (⟨tl, m.deliveries.set i ⟨d.entry, some os⟩⟩ : Interleaved).Sound := by
  have hget (j : Nat) (x : Delivery) (hx : (m.deliveries.set i ⟨d.entry, some os⟩)[j]? = some x) :
      ∃ y, m.deliveries[j]? = some y ∧ y.entry = x.entry ∧ (y = x ∨ x.awaiting = some os) := by
    rw [List.getElem?_set] at hx
    split at hx
    · rename_i hij
      subst hij
      split at hx
      · rw [← Option.some.inj hx]
        exact ⟨d, hd, rfl, .inr rfl⟩
      · exact nomatch hx
    · exact ⟨x, hx, rfl, .inl rfl⟩
  refine ⟨htl, hopen, ?_, ?_, ?_, ?_⟩
  · rw [List.length_set, hrec]
    exact h.counted
  · intro j x hx
    obtain ⟨y, hy, he, -⟩ := hget j x hx
    rw [← he]
    exact h.numbered j y hy
  · intro x hx os' hos'
    obtain ⟨j, hj⟩ := List.mem_iff_getElem?.mp hx
    obtain ⟨y, hy, -, hxy⟩ := hget j x hj
    rcases hxy with rfl | hxy
    · exact h.awaited y (List.mem_of_getElem? hy) os' hos'
    · rw [hxy] at hos'
      rw [← Option.some.inj hos']
      exact hos
  · intro t e he
    unfold entries
    rw [entries_set hd]
    rw [hrec] at he
    exact h.kept t e he

theorem Sound.store {m : Interleaved} (h : m.Sound) (e : Entry) : (m.step (.store e)).Sound := by
  have hstored (j : Nat) (x : Delivery) (hx : (m.step (.store e)).deliveries[j]? = some x) :
      m.deliveries[j]? = some x ∨
        j = m.deliveries.length ∧ x = ⟨e.withSequence (m.timeline.recorder.sequence + 1), none⟩ := by
    have hx : (m.deliveries ++ [_])[j]? = some x := hx
    rw [List.getElem?_append] at hx
    split at hx
    · exact .inl hx
    · rename_i hj
      have hz : j - m.deliveries.length = 0 := by
        have := (List.getElem?_eq_some_iff.mp hx).1
        simp only [List.length_singleton] at this
        omega
      rw [hz] at hx
      exact .inr ⟨by omega, (Option.some.inj hx).symm⟩
  refine ⟨?_, h.isOpen, ?_, ?_, ?_, ?_⟩
  · exact h.timeline.with_recorder (Recorder.ordered_append h.timeline.ordered e) (Nat.le_succ _)
  · exact List.length_append.trans (congrArg Nat.succ h.counted)
  · intro j x hx
    rcases hstored j x hx with hx | ⟨rfl, rfl⟩
    · exact h.numbered j x hx
    · rw [Entry.sequence_withSequence, h.counted]
  · intro x hx os hos
    obtain ⟨j, hj⟩ := List.mem_iff_getElem?.mp hx
    rcases hstored j x hj with hx | ⟨-, rfl⟩
    · exact h.awaited x (List.mem_of_getElem? hx) os hos
    · exact nomatch hos
  · intro t x hx
    have hentries : (m.step (.store e)).entries =
        m.entries ++ [e.withSequence (m.timeline.recorder.sequence + 1)] := List.map_append
    rw [hentries]
    have hx : x ∈ ((m.timeline.recorder.append e).1.buffer t).entries := hx
    rcases Recorder.mem_entries_append hx with hx | ⟨-, rfl⟩
    · exact List.mem_append_left _ (h.kept t x hx)
    · exact List.mem_append_right _ List.mem_cons_self

theorem Sound.operate {m : Interleaved} (h : m.Sound) (op : Operation) (hop : op.isAtomic = true) :
    (m.step (.operate op hop)).Sound := by
  simp only [Operation.isAtomic, Bool.and_eq_true, Option.isNone_iff_eq_none] at hop
  obtain ⟨⟨hreported, -⟩, hkeeps⟩ := hop
  rw [step_operate h.timeline.nodup]
  have hrec := Timeline.recorder_effect m.timeline op
  refine ⟨h.timeline.effect op, (Timeline.isOpen_effect _ hkeeps).trans h.isOpen, ?_, h.numbered,
    h.awaited, ?_⟩
  · rw [hrec, Timeline.sequence_onRecorder hreported]
    exact h.counted
  · intro t e he
    rw [hrec] at he
    exact h.kept t e ((Timeline.entries_onRecorder_sublist hreported _ t).subset he)

theorem Sound.step {m : Interleaved} (h : m.Sound) (a : Action) : (m.step a).Sound := by
  cases a with
  | count name =>
    exact ⟨h.timeline.with_recorder (Recorder.ordered_countEvent h.timeline.ordered name)
      (Nat.le_refl _), h.isOpen, h.counted, h.numbered, h.awaited, h.kept⟩
  | store e => exact h.store e
  | list i =>
    unfold Interleaved.step
    dsimp only
    split
    · rename_i e hd
      obtain ⟨slots, heq, -⟩ := listed_eq h.timeline.nodup
      refine h.set hd (Registry.nodup_prune h.timeline.nodup _) (sound_listed h.timeline) ?_ ?_
      · rw [heq]
        exact h.isOpen
      · rw [heq]
        rfl
    · exact h
  | turn i =>
    unfold Interleaved.step
    dsimp only
    split
    · rename_i e o rest hd
      have hnodup := h.awaited _ (List.mem_of_getElem? hd) _ rfl
      rw [quiet_push]
      refine h.set hd (List.nodup_cons.mp hnodup).2 (h.timeline.updateObserver ?_) h.isOpen rfl
      intro s hs hm
      refine ⟨Observer.coherent_push hs e, ?_⟩
      intro w hw
      rw [Observer.watermark_push] at hw
      exact hm w hw
    · exact h
  | operate op hop => exact h.operate op hop

theorem Sound.run {m : Interleaved} (h : m.Sound) (actions : List Action) : (m.run actions).Sound := by
  induction actions generalizing m with
  | nil => exact h
  | cons a actions ih => exact ih (h.step a)

end Interleaved

end PerfTimeline
