import PerfTimeline.Proofs.Delivery.Interleaved

/-!
# Turns

What the actions of an interleaved run offer to one observer. `Interleaved.offers` lists the entries that an
action offers to the queue, `feed` adds the drains, and `fed` says that nothing else reaches the queue: an
offered entry is queued, or it is counted as dropped. A report is over for an observer once the observer has
had its turn or was left out when the observers were listed (`isOver_step`).
-/

namespace PerfTimeline.Interleaved

/-! ### Offers -/

/-- What an action offers to the queue of `o`, whether or not it finds room. -/
def offers (o : ObserverId) (m : Interleaved) : Action → List Entry
  | .turn i =>
    match m.turn? i with
    | some (e, p) => if p = o then (m.timeline.observer? o).elim [] (·.pushed e) else []
    | none => []
  | .operate (.observeOne p t options) _ =>
    if p = o ∧ m.timeline.isLive o then Observer.copied options (m.timeline.reachable t) else []
  | _ => []

/-- The drain of `o` by an action, if it is one. -/
def drain (o : ObserverId) (m : Interleaved) : Action → List Feed
  | .operate (.take p sorted) _ => if p = o ∧ m.timeline.isLive o then [.drain sorted] else []
  | _ => []

/-- What an action feeds the queue of `o` with. -/
def feed (o : ObserverId) (m : Interleaved) (a : Action) : List Feed :=
  (m.offers o a).map .offer ++ m.drain o a

/-- What an action drains from `o`, if it does. -/
def drained (o : ObserverId) (m : Interleaved) : Action → List (List Entry)
  | .operate (.take p sorted) _ =>
    if p = o ∧ m.timeline.isLive o then [(m.timeline.perform .quiet (.take p sorted)).2.taken] else []
  | _ => []

theorem asQueue_stepOn {m : Interleaved} (h : m.Sound) {o : ObserverId} {s : Observer}
    (hs : m.timeline.observer? o = some s) (hc : s.isDisconnected = false) {a : Action}
    (ha : a.disconnects o = false) : (m.stepOn o s a).asQueue = s.asQueue.after (m.feed o a) := by
  have hco := h.timeline.coherent o s hs
  cases a with
  | count name => rfl
  | store e => rfl
  | list i => rfl
  | turn i =>
    unfold stepOn feed offers drain
    dsimp only
    cases hturn : m.turn? i with
    | none => rfl
    | some turn =>
      obtain ⟨e, p⟩ := turn
      by_cases hp : p = o
      · simp only [hp, ite_true, hs, Option.elim_some, List.append_nil]
        rw [BoundedQueue.after_offers]
        exact Observer.asQueue_push hco e
      · simp only [hp, ite_false]
        rfl
  | operate op hop =>
    cases op with
    | observeOne p t options =>
      by_cases hp : p = o ∧ m.timeline.isLive o = true
      · simp only [stepOn, Timeline.effectOn, feed, offers, drain, hp, and_self, ite_true,
          List.append_nil]
        rw [BoundedQueue.after_offers]
        exact Observer.asQueue_observeOne hco hc t options _
      · simp only [stepOn, Timeline.effectOn, feed, offers, drain, hp, ite_false]
        rfl
    | observeMany p types =>
      simp only [stepOn, Timeline.effectOn, feed, offers, drain]
      split
      · exact Observer.asQueue_observeMany s types
      · rfl
    | take p sorted =>
      by_cases hp : p = o ∧ m.timeline.isLive o = true
      · simp only [stepOn, Timeline.effectOn, feed, offers, drain, hp, and_self, ite_true]
        rfl
      · simp only [stepOn, Timeline.effectOn, feed, offers, drain, hp, ite_false]
        rfl
    | disconnect p =>
      have hp : p ≠ o := by simpa [Action.disconnects, Operation.disconnects] using ha
      simp only [stepOn, Timeline.effectOn, hp, false_and, ite_false]
      rfl
    | _ => first | rfl | cases hop

theorem drained_eq_outputs {m : Interleaved} {o : ObserverId} {s : Observer}
    (hs : m.timeline.observer? o = some s) (a : Action) :
    m.drained o a = s.asQueue.outputs (m.feed o a) := by
  have hoffers (es : List Entry) : [] = s.asQueue.outputs (es.map .offer ++ []) := by
    rw [List.append_nil]
    exact (BoundedQueue.outputs_offers _ es).symm
  cases a with
  | operate op hop =>
    cases op with
    | take p sorted =>
      by_cases hp : p = o ∧ m.timeline.isLive o = true
      · obtain ⟨rfl, hl⟩ := hp
        simp only [drained, feed, offers, drain, hl, and_self, ite_true]
        simp only [Timeline.perform, Timeline.onLive, hl, ite_true, Timeline.take, hs]
        rfl
      · simp only [drained, feed, offers, drain, hp, ite_false]
        rfl
    | _ => exact hoffers _
  | _ => exact hoffers _

theorem isDisconnected_stepOn {m : Interleaved} {o : ObserverId} {s : Observer} (h : s.Coherent)
    (hc : s.isDisconnected = false) {a : Action} (ha : a.disconnects o = false) :
    (m.stepOn o s a).isDisconnected = false := by
  have guarded {P : Prop} [Decidable P] {t : Observer} (ht : t.isDisconnected = false) :
      (if P then t else s).isDisconnected = false := by
    split <;> assumption
  cases a with
  | turn i =>
    unfold stepOn
    dsimp only
    split
    · exact guarded (Observer.isDisconnected_push h hc _)
    · exact hc
  | operate op hop =>
    cases op with
    | observeOne p t options =>
      refine guarded ?_
      rw [Observer.observeOne_eq_fill h hc]
      exact Observer.isDisconnected_fill _ _ hc
    | observeMany p types =>
      exact guarded ((Observer.isDisconnected_observeMany s types).trans hc)
    | take p sorted =>
      exact guarded ((Observer.isDisconnected_take s sorted).trans hc)
    | disconnect p =>
      have hp : p ≠ o := by simpa [Action.disconnects, Operation.disconnects] using ha
      simp only [stepOn, Timeline.effectOn, hp, false_and, ite_false]
      exact hc
    | _ => first | exact hc | cases hop
  | _ => exact hc

/-- Over a whole run, the queue of an observer that nobody disconnects takes what it is fed with and gives
out what is drained. -/
theorem fed_run {m : Interleaved} (h : m.Sound) {o : ObserverId} {s : Observer}
    (hs : m.timeline.observer? o = some s) (hc : s.isDisconnected = false) {actions : List Action}
    (hactions : ∀ a ∈ actions, a.disconnects o = false) :
    ((m.run actions).timeline.observer? o).map Observer.asQueue =
        some (s.asQueue.after (m.gather (feed o) actions)) ∧
      m.gather (drained o) actions = s.asQueue.outputs (m.gather (feed o) actions) := by
  induction actions generalizing m s with
  | nil =>
    rw [run_nil, hs]
    exact ⟨rfl, rfl⟩
  | cons a actions ih =>
    have ha := hactions a List.mem_cons_self
    have hco := h.timeline.coherent o s hs
    have hnext := observer?_step_eq h.timeline hs a
    obtain ⟨hqueue, hdrained⟩ := ih (h.step a) hnext (isDisconnected_stepOn hco hc ha)
      fun b hb => hactions b (List.mem_cons_of_mem _ hb)
    rw [asQueue_stepOn h hs hc ha] at hqueue hdrained
    refine ⟨?_, ?_⟩
    · rw [run_cons, hqueue, gather, BoundedQueue.after_append]
    · rw [gather, hdrained, gather, BoundedQueue.outputs_append, drained_eq_outputs hs a]

/-! ### Turns -/

/-- Whether report `i` has been begun and is over for an observer. -/
def isOver (m : Interleaved) (o : ObserverId) (i : Nat) : Bool := m.deliveries[i]?.any (·.isOver o)

theorem turn?_eq_some {m : Interleaved} (h : m.Sound) {i : Nat} {e : Entry} {o : ObserverId}
    (ht : m.turn? i = some (e, o)) :
    ∃ rest, m.deliveries[i]? = some ⟨e, some (o :: rest)⟩ ∧ o ∉ rest := by
  unfold turn? at ht
  split at ht
  · rename_i e' o' rest hd
    obtain ⟨rfl, rfl⟩ := Prod.mk.inj (Option.some.inj ht)
    exact ⟨rest, hd, (List.nodup_cons.mp (h.awaited _ (List.mem_of_getElem? hd) _ rfl)).1⟩
  · exact nomatch ht

theorem isOver_set {ds : List Delivery} {tl : Timeline Unit} {i j : Nat} {d d' : Delivery}
    (hd : ds[i]? = some d) (o : ObserverId) :
    (⟨tl, ds.set i d'⟩ : Interleaved).isOver o j =
      if i = j then d'.isOver o else ds[j]?.any (·.isOver o) := by
  unfold isOver
  dsimp only
  rw [List.getElem?_set]
  by_cases hij : i = j
  · subst hij
    have hlt := (List.getElem?_eq_some_iff.mp hd).1
    simp [hlt]
  · simp [hij]

theorem isOver_store (m : Interleaved) (e : Entry) (o : ObserverId) (i : Nat) :
    (m.step (.store e)).isOver o i = m.isOver o i := by
  unfold isOver step
  dsimp only
  rw [List.getElem?_append]
  split
  · rfl
  · rename_i hi
    have hnone : m.deliveries[i]? = none := List.getElem?_eq_none (Nat.le_of_not_lt hi)
    rw [hnone]
    cases i - m.deliveries.length with
    | zero => rfl
    | succ n => rfl

theorem isOver_list (m : Interleaved) (o : ObserverId) (i j : Nat) :
    (m.step (.list j)).isOver o i = true ↔ m.isOver o i = true ∨
      (j = i ∧ (∃ e, m.deliveries[i]? = some ⟨e, none⟩) ∧ m.timeline.listens o = false) := by
  unfold step
  dsimp only
  split
  · rename_i e hd
    have hlisted : (⟨e, some m.timeline.prune.registry⟩ : Delivery).isOver o =
        !m.timeline.listens o := by
      have hmem := Timeline.mem_registry_prune m.timeline o
      cases hl : m.timeline.listens o <;> simp_all [Delivery.isOver]
    rw [isOver_set hd]
    by_cases hij : j = i
    · subst hij
      have hbefore : m.isOver o j = false := by simp [isOver, hd, Delivery.isOver]
      rw [if_pos rfl, hlisted, hbefore]
      simp [hd]
    · rw [if_neg hij]
      simp [isOver, hij]
  · rename_i hne
    have hno (e : Entry) : m.deliveries[j]? ≠ some ⟨e, none⟩ := hne e
    by_cases hij : j = i
    · subst hij
      simp [hno]
    · simp [hij]

theorem isOver_turn {m : Interleaved} (h : m.Sound) (o : ObserverId) (i j : Nat) :
    (m.step (.turn j)).isOver o i = true ↔
      m.isOver o i = true ∨ (j = i ∧ ∃ e, m.turn? i = some (e, o)) := by
  unfold step
  dsimp only
  split
  · rename_i e p rest hd
    have hnodup := List.nodup_cons.mp (h.awaited _ (List.mem_of_getElem? hd) _ rfl)
    have hturn : m.turn? j = some (e, p) := by simp [turn?, hd]
    rw [isOver_set hd]
    by_cases hij : j = i
    · subst hij
      rw [if_pos rfl, hturn]
      by_cases hp : p = o
      · subst hp
        simp [Delivery.isOver, hnodup.1]
      · simp [isOver, hd, Delivery.isOver, hp, Ne.symm hp]
    · rw [if_neg hij]
      simp [isOver, hij]
  · rename_i hne
    have hno : m.turn? j = none := by
      unfold turn?
      split
      · exact absurd ‹_› (hne _ _ _)
      · rfl
    by_cases hij : j = i
    · subst hij
      simp [hno]
    · simp [hij]

/-- A report becomes over for an observer by its turn, or when the observers are listed without it. -/
theorem isOver_step {m : Interleaved} (h : m.Sound) (o : ObserverId) (i : Nat) (a : Action) :
    (m.step a).isOver o i = true ↔ m.isOver o i = true ∨
      (a = .turn i ∧ ∃ e, m.turn? i = some (e, o)) ∨
      (a = .list i ∧ (∃ e, m.deliveries[i]? = some ⟨e, none⟩) ∧ m.timeline.listens o = false) := by
  cases a with
  | count name =>
    have hsame : (m.step (.count name)).isOver o i = m.isOver o i := rfl
    simp [hsame]
  | store e => simp [isOver_store]
  | list j => simp [isOver_list]
  | turn j => simp [isOver_turn h]
  | operate op hop =>
    have hsame : (m.step (.operate op hop)).isOver o i = m.isOver o i := rfl
    simp [hsame]

theorem entries_step (m : Interleaved) (a : Action) : ∃ es, (m.step a).entries = m.entries ++ es := by
  cases a with
  | store e => exact ⟨_, List.map_append⟩
  | list i =>
    unfold step
    dsimp only
    split
    · exact ⟨[], by rw [List.append_nil]; exact entries_set ‹_› _⟩
    · exact ⟨[], (List.append_nil _).symm⟩
  | turn i =>
    unfold step
    dsimp only
    split
    · exact ⟨[], by rw [List.append_nil]; exact entries_set ‹_› _⟩
    · exact ⟨[], (List.append_nil _).symm⟩
  | _ => exact ⟨[], (List.append_nil _).symm⟩

theorem getElem?_entries_step {m : Interleaved} {i : Nat} {e : Entry} (h : m.entries[i]? = some e)
    (a : Action) : (m.step a).entries[i]? = some e := by
  obtain ⟨es, hes⟩ := entries_step m a
  rw [hes, List.getElem?_append_left (List.getElem?_eq_some_iff.mp h).1]
  exact h

end PerfTimeline.Interleaved
