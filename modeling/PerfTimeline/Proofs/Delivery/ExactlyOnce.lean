import PerfTimeline.Proofs.Delivery.Turns

/-!
# Exactly once in each period

A subscription period of an observer begins with an effective subscription and lasts until the next one or
until the observer is disconnected. In a period each reported entry is offered to the observer at most once,
whether it is copied when the period begins or pushed later, and whatever happens between the pieces of the
reports in progress.

The watermark tells what was copied from what is new. Turns that come in the period are those of reports not
over when it began; an entry offered in its turn is numbered above the watermark, and an entry copied is not.
`Period` ties this together: it holds when the period begins, and every action in it keeps it.
-/

namespace PerfTimeline

/-- What begins a subscription period. -/
inductive Subscription where
  | one (t : EntryType) (options : ObserveOptions)
  | many (types : List EntryType)

namespace Subscription

/-- What passes in the period. -/
def filter : Subscription → Filter
  | one t options => .one t options
  | many types => .many types

/-- How `o` subscribes. -/
def operation (o : ObserverId) : Subscription → Operation
  | one t options => .observeOne o t options
  | many types => .observeMany o types

theorem isAtomic_operation (o : ObserverId) (sub : Subscription) : (sub.operation o).isAtomic = true := by
  cases sub <;> rfl

theorem subscribes_operation (o : ObserverId) (sub : Subscription) :
    (sub.operation o).subscribes o = true := by
  cases sub <;> exact beq_self_eq_true o

/-- The action that begins the period of `o`. -/
def action (o : ObserverId) (sub : Subscription) : Action :=
  .operate (sub.operation o) (sub.isAtomic_operation o)

/-- The stored entries that are looked at when the period begins. -/
def retained (r : Recorder) : Subscription → List Entry
  | one t options => if options.buffered then r.select t none else []
  | many _ => []

/-- The greatest number among them. -/
def watermark (r : Recorder) (sub : Subscription) : Option Nat :=
  ((sub.retained r).map Entry.sequence).max?

end Subscription

theorem Observer.hasCopied_eq_false_iff {s : Observer} {es : List Entry} {e : Entry}
    (hs : s.watermark = (es.map Entry.sequence).max?) (he : e.sequence ≠ 0) :
    s.hasCopied e = false ↔ ∀ x ∈ es, x.sequence < e.sequence := by
  unfold hasCopied
  rw [hs]
  cases hm : (es.map Entry.sequence).max? with
  | none =>
    have hnil : es = [] := by simpa using hm
    simp [hnil]
  | some w =>
    obtain ⟨hmem, hmax⟩ := List.max?_eq_some_iff.mp hm
    simp only [bne_iff_ne, ne_eq, he, not_false_eq_true, Bool.and_eq_false_imp, decide_eq_false_iff_not,
      Nat.not_le, true_implies]
    constructor
    · intro hlt x hx
      exact Nat.lt_of_le_of_lt (hmax _ (List.mem_map_of_mem hx)) hlt
    · intro hall
      obtain ⟨x, hx, rfl⟩ := List.mem_map.mp hmem
      exact hall x hx

namespace Interleaved

/-- The turn of `o` with entry `e` has come between `m` and `m'`, and the entry is one for the subscription
that began at `m`: it passes, and it is newer than all entries looked at then. -/
def Arrived (m : Interleaved) (o : ObserverId) (sub : Subscription) (m' : Interleaved) (e : Entry) : Prop :=
  sub.filter.admits e = true ∧ (∀ x ∈ sub.retained m.timeline.recorder, x.sequence < e.sequence) ∧
    ∃ i, m'.entries[i]? = some e ∧ m'.isOver o i = true ∧ m.isOver o i = false

/-- The period of `o` that began at `m` with `sub` has come to `m'`, and `offered` has been offered so far. -/
structure Period (m : Interleaved) (o : ObserverId) (sub : Subscription) (m' : Interleaved)
    (offered : List Entry) : Prop where
  sound : m'.Sound
  state : ∃ s, m'.timeline.observer? o = some s ∧ s.isDisconnected = false ∧
    (∀ e, s.filter.admits e = sub.filter.admits e) ∧ s.watermark = sub.watermark m.timeline.recorder
  registered : m'.timeline.isLive o = true → o ∈ m'.timeline.registry
  stillOver : ∀ i, m.isOver o i = true → m'.isOver o i = true
  reported : ∀ e ∈ offered, e ∈ m'.entries
  copied : ∀ e ∈ sub.retained m.timeline.recorder, sub.filter.admits e = true → e ∈ offered
  only : ∀ e ∈ offered,
    (e ∈ sub.retained m.timeline.recorder ∧ sub.filter.admits e = true) ∨ m.Arrived o sub m' e
  complete : m'.timeline.isLive o = true → ∀ e, m.Arrived o sub m' e → e ∈ offered
  nodup : (offered.map Entry.sequence).Nodup

/-! ### The beginning -/

theorem Subscription.retained_sublist (r : Recorder) (sub : Subscription) :
    ∃ t, (sub.retained r).Sublist (r.buffer t).entries := by
  cases sub with
  | one t options =>
    refine ⟨t, ?_⟩
    unfold Subscription.retained
    dsimp only
    rw [Recorder.select_none]
    split
    · exact List.Sublist.refl _
    · exact List.nil_sublist _
  | many types => exact ⟨.mark, List.nil_sublist _⟩

theorem offers_action {m : Interleaved} (h : m.Sound) {o : ObserverId}
    (hl : m.timeline.isLive o = true) (sub : Subscription) :
    m.offers o (sub.action o) =
      (sub.retained m.timeline.recorder).filter fun e => sub.filter.admits e := by
  cases sub with
  | one t options =>
    have htyped := h.timeline.ordered.typed t
    rw [← Recorder.select_none] at htyped
    simp only [Subscription.action, Subscription.operation, offers, hl, and_self, ite_true,
      Observer.copied, Timeline.reachable, h.isOpen, Option.getD_some, Subscription.retained,
      Subscription.filter]
    cases options.buffered with
    | false => rfl
    | true =>
      simp only [ite_true]
      apply List.filter_congr
      intro e he
      simp [Filter.admits, htyped e he]
  | many types => rfl

/-- What a subscription copies was reported, and no two entries of it have the same number. -/
theorem offers_action_stored {m : Interleaved} (h : m.Sound) {o : ObserverId}
    (hl : m.timeline.isLive o = true) (sub : Subscription) :
    ((m.offers o (sub.action o)).map Entry.sequence).Nodup ∧
      ∀ e ∈ m.offers o (sub.action o), e ∈ m.entries := by
  obtain ⟨t, hsub⟩ := Subscription.retained_sublist m.timeline.recorder sub
  rw [offers_action h hl sub]
  constructor
  · rw [List.Nodup, List.pairwise_map]
    refine List.Pairwise.sublist (List.filter_sublist.trans hsub) ?_
    exact (h.timeline.ordered.ascending t).imp fun hlt => Nat.ne_of_lt hlt
  · intro e he
    exact h.kept t e (hsub.subset (List.mem_filter.mp he).1)

theorem observer?_subscribed {m : Interleaved} (h : m.Sound) {o : ObserverId} {s : Observer}
    (hl : m.timeline.isLive o = true) (hs : m.timeline.observer? o = some s)
    (hd : s.isDisconnected = false) (sub : Subscription) :
    ∃ s', (m.step (sub.action o)).timeline.observer? o = some s' ∧ s'.isDisconnected = false ∧
      (∀ e, s'.filter.admits e = sub.filter.admits e) ∧
      s'.watermark = sub.watermark m.timeline.recorder := by
  have hco := h.timeline.coherent o s hs
  rw [observer?_step h.timeline (Timeline.lt_length_of_isLive hl), hs]
  refine ⟨_, rfl, ?_⟩
  cases sub with
  | one t options =>
    simp only [stepOn, Subscription.action, Subscription.operation, Timeline.effectOn, hl, and_self,
      ite_true]
    rw [Observer.observeOne_eq_fill hco hd]
    refine ⟨Observer.isDisconnected_fill _ _ hd, fun _ => rfl, ?_⟩
    simp only [Observer.fill, Observer.subscribe, Timeline.reachable, h.isOpen, ite_true,
      Option.getD_some]
    rfl
  | many types =>
    simp only [stepOn, Subscription.action, Subscription.operation, Timeline.effectOn, hl, and_self,
      ite_true]
    refine ⟨?_, Observer.admits_observeMany hd types, ?_⟩
    · simp only [Observer.observeMany, hd, Bool.false_eq_true, ite_false]
      exact hd
    · simp [Observer.observeMany, hd, Subscription.watermark, Subscription.retained]

theorem Period.begin {m : Interleaved} (h : m.Sound) {o : ObserverId}
    (hl : m.timeline.isLive o = true) (hc : m.timeline.isConnected o = true) (sub : Subscription) :
    m.Period o sub (m.step (sub.action o)) (m.offers o (sub.action o)) := by
  have hsound := h.step (sub.action o)
  have ho := Timeline.lt_length_of_isLive hl
  obtain ⟨s, hs, hd⟩ := Timeline.exists_of_isConnected hc
  have hstate := observer?_subscribed h hl hs hd sub
  have hdeliveries : (m.step (sub.action o)).deliveries = m.deliveries := by cases sub <;> rfl
  have hover (i : Nat) : (m.step (sub.action o)).isOver o i = m.isOver o i := by
    unfold isOver
    rw [hdeliveries]
  have hnone (e : Entry) : ¬ m.Arrived o sub (m.step (sub.action o)) e := by
    rintro ⟨-, -, i, -, hafter, hbefore⟩
    rw [hover, hbefore] at hafter
    exact nomatch hafter
  have hoffers := offers_action h hl sub
  obtain ⟨hnodup, hreported⟩ := offers_action_stored h hl sub
  refine ⟨hsound, hstate, ?_, ?_, ?_, ?_, ?_, ?_, ?_⟩
  · intro hl'
    obtain ⟨s', hs', hd', -⟩ := hstate
    have hc' : (m.step (sub.action o)).timeline.isConnected o = true := by
      simp [Timeline.isConnected, hs', hd']
    have hdirect : (sub.operation o).isDirect = false := by cases sub <;> rfl
    rw [Subscription.action, step_operate h.timeline.nodup] at hl' hc' ⊢
    exact (Timeline.mem_registry_effect ho hdirect h.isOpen hl' hc').mpr
      (.inr (sub.subscribes_operation o))
  · intro i hi
    rw [hover]
    exact hi
  · intro e he
    have hmem := hreported e he
    unfold entries at *
    rw [hdeliveries]
    exact hmem
  · intro e he ha
    rw [hoffers]
    exact List.mem_filter.mpr ⟨he, ha⟩
  · intro e he
    rw [hoffers] at he
    exact .inl (List.mem_filter.mp he)
  · intro _ e he
    exact absurd he (hnone e)
  · exact hnodup

/-! ### The actions of a period -/

theorem stepOn_frame {m : Interleaved} {o : ObserverId} {s : Observer} (h : s.Coherent) {a : Action}
    (hsub : a.subscribes o = false) (hdis : a.disconnects o = false) :
    (m.stepOn o s a).filter = s.filter ∧ (m.stepOn o s a).watermark = s.watermark := by
  have same {s' : Observer} (hs : s' = s) : s'.filter = s.filter ∧ s'.watermark = s.watermark := by
    subst hs
    exact ⟨rfl, rfl⟩
  cases a with
  | turn i =>
    unfold stepOn
    dsimp only
    split
    · split
      · exact ⟨Observer.filter_push h _, Observer.watermark_push s _⟩
      · exact same rfl
    · exact same rfl
  | operate op hop =>
    cases op with
    | observeOne p t options =>
      have hp : p ≠ o := by simpa [Action.subscribes, Operation.subscribes] using hsub
      exact same (by simp [stepOn, Timeline.effectOn, hp])
    | observeMany p types =>
      have hp : p ≠ o := by simpa [Action.subscribes, Operation.subscribes] using hsub
      exact same (by simp [stepOn, Timeline.effectOn, hp])
    | disconnect p =>
      have hp : p ≠ o := by simpa [Action.disconnects, Operation.disconnects] using hdis
      exact same (by simp [stepOn, Timeline.effectOn, hp])
    | take p sorted =>
      simp only [stepOn, Timeline.effectOn]
      split
      · exact ⟨rfl, rfl⟩
      · exact same rfl
    | _ => first | exact same rfl | cases hop
  | _ => exact same rfl

theorem offers_of_not_subscribes {m : Interleaved} {o : ObserverId} {s : Observer}
    (hs : m.timeline.observer? o = some s) {a : Action} (hsub : a.subscribes o = false) :
    m.offers o a = [] ∨ ∃ i e, a = .turn i ∧ m.turn? i = some (e, o) ∧ m.offers o a = s.pushed e := by
  cases a with
  | turn i =>
    unfold offers
    dsimp only
    split
    · rename_i e p ht
      split
      · rename_i hp
        subst hp
        exact .inr ⟨i, e, rfl, ht, by simp [hs]⟩
      · exact .inl rfl
    · exact .inl rfl
  | operate op hop =>
    cases op with
    | observeOne p t options =>
      have hp : p ≠ o := by simpa [Action.subscribes, Operation.subscribes] using hsub
      exact .inl (by simp [offers, hp])
    | _ => exact .inl rfl
  | _ => exact .inl rfl

theorem getElem?_entries_of_turn {m : Interleaved} (h : m.Sound) {i : Nat} {e : Entry} {o : ObserverId}
    (ht : m.turn? i = some (e, o)) :
    m.entries[i]? = some e ∧ e.sequence = i + 1 ∧ m.isOver o i = false := by
  obtain ⟨rest, hd, -⟩ := turn?_eq_some h ht
  refine ⟨?_, h.numbered i _ hd, ?_⟩
  · unfold entries
    rw [List.getElem?_map, hd]
    rfl
  · simp [isOver, hd, Delivery.isOver]

theorem sequence_of_entries {m : Interleaved} (h : m.Sound) {i : Nat} {e : Entry}
    (he : m.entries[i]? = some e) : e.sequence = i + 1 := by
  unfold entries at he
  rw [List.getElem?_map] at he
  obtain ⟨d, hd, rfl⟩ := Option.map_eq_some_iff.mp he
  exact h.numbered i d hd

/-- In its turn an entry is offered if it passes and is newer than all entries looked at. -/
theorem Period.accepts_iff {m m' : Interleaved} {o : ObserverId} {sub : Subscription} {s : Observer}
    (hd : s.isDisconnected = false) (hf : ∀ e, s.filter.admits e = sub.filter.admits e)
    (hw : s.watermark = sub.watermark m.timeline.recorder) (h : m'.Sound) {i : Nat} {e : Entry}
    (ht : m'.turn? i = some (e, o)) :
    s.accepts e = true ↔ sub.filter.admits e = true ∧
      ∀ x ∈ sub.retained m.timeline.recorder, x.sequence < e.sequence := by
  have hseq : e.sequence ≠ 0 := by
    have := (getElem?_entries_of_turn h ht).2.1
    omega
  rw [← Observer.hasCopied_eq_false_iff hw hseq]
  simp [Observer.accepts, Observer.admits, hd, hf]

theorem Arrived.step {m m' : Interleaved} {o : ObserverId} {sub : Subscription} {e : Entry}
    (h : m'.Sound) (he : m.Arrived o sub m' e) (a : Action) : m.Arrived o sub (m'.step a) e := by
  obtain ⟨hadmits, hnewer, i, hi, hafter, hbefore⟩ := he
  exact ⟨hadmits, hnewer, i, getElem?_entries_step hi a, (isOver_step h o i a).mpr (.inl hafter), hbefore⟩

theorem mem_offers_of_not_subscribes {m : Interleaved} {o : ObserverId} {s : Observer}
    (hs : m.timeline.observer? o = some s) {a : Action} (hsub : a.subscribes o = false) {e : Entry}
    (he : e ∈ m.offers o a) : ∃ i, a = .turn i ∧ m.turn? i = some (e, o) ∧ s.accepts e = true := by
  rcases offers_of_not_subscribes hs hsub with hnil | ⟨i, e', ha, ht, hpushed⟩
  · rw [hnil] at he
    exact nomatch he
  · rw [hpushed, Observer.pushed] at he
    split at he
    · rename_i hacc
      rw [List.mem_singleton.mp he]
      exact ⟨i, ha, ht, hacc⟩
    · exact nomatch he

theorem nodup_offers_of_not_subscribes {m : Interleaved} {o : ObserverId} {s : Observer}
    (hs : m.timeline.observer? o = some s) {a : Action} (hsub : a.subscribes o = false) :
    ((m.offers o a).map Entry.sequence).Nodup := by
  rcases offers_of_not_subscribes hs hsub with hnil | ⟨i, e, -, -, hpushed⟩
  · rw [hnil]
    exact List.nodup_nil
  · rw [hpushed, Observer.pushed]
    split
    · exact List.pairwise_singleton ..
    · exact List.nodup_nil

section Turns

variable {m m' : Interleaved} {o : ObserverId} {sub : Subscription} {offered : List Entry}

theorem Period.arrived_of_turn (h : m.Period o sub m' offered) {i : Nat} {e : Entry}
    (ht : m'.turn? i = some (e, o)) (hadmits : sub.filter.admits e = true)
    (hnewer : ∀ x ∈ sub.retained m.timeline.recorder, x.sequence < e.sequence) :
    m.Arrived o sub (m'.step (.turn i)) e := by
  obtain ⟨hentry, -, hwaits⟩ := getElem?_entries_of_turn h.sound ht
  have hover : (m'.step (.turn i)).isOver o i = true :=
    (isOver_step h.sound o i (.turn i)).mpr (.inr (.inl ⟨rfl, e, ht⟩))
  have hbefore : m.isOver o i = false := by
    cases hb : m.isOver o i with
    | false => rfl
    | true => rw [h.stillOver i hb] at hwaits; exact nomatch hwaits
  exact ⟨hadmits, hnewer, i, getElem?_entries_step hentry (.turn i), hover, hbefore⟩

/-- What is offered in a turn has not been offered before in the period. -/
theorem Period.sequence_ne (h : m.Period o sub m' offered) {i : Nat} {e : Entry}
    (ht : m'.turn? i = some (e, o))
    (hnewer : ∀ x ∈ sub.retained m.timeline.recorder, x.sequence < e.sequence) {x : Entry}
    (hx : x ∈ offered) : x.sequence ≠ e.sequence := by
  obtain ⟨-, hseq, hwaits⟩ := getElem?_entries_of_turn h.sound ht
  intro hxe
  rcases h.only x hx with ⟨hret, -⟩ | ⟨-, -, j, hj, hover, -⟩
  · have hlt := hnewer x hret
    omega
  · -- Both would be the entry of one report, over and not over.
    have hij : j = i := by
      have hseq' := sequence_of_entries h.sound hj
      omega
    rw [hij, hwaits] at hover
    exact nomatch hover

/-- What has arrived after an action had arrived before, or it is offered now. -/
theorem Period.arrived_before (h : m.Period o sub m' offered) (hl : m'.timeline.isLive o = true)
    {a : Action} {e : Entry} (he : m.Arrived o sub (m'.step a) e) :
    m.Arrived o sub m' e ∨ ∃ i, a = .turn i ∧ m'.turn? i = some (e, o) := by
  obtain ⟨hadmits, hnewer, i, hi, hafter, hbefore⟩ := he
  have entry_of {d : Entry} (hd : m'.entries[i]? = some d) : d = e := by
    have hsame := getElem?_entries_step hd a
    rw [hi] at hsame
    exact (Option.some.inj hsame).symm
  rcases (isOver_step h.sound o i a).mp hafter with hover | ⟨ha, e', ht⟩ | ⟨-, -, hlistens⟩
  · obtain ⟨d, hd, -⟩ := (Option.any_eq_true _ _).mp hover
    have hentry : m'.entries[i]? = some d.entry := by
      unfold entries
      rw [List.getElem?_map, hd]
      rfl
    rw [entry_of hentry] at hentry
    exact .inl ⟨hadmits, hnewer, i, hentry, hover, hbefore⟩
  · rw [entry_of (getElem?_entries_of_turn h.sound ht).1] at ht
    exact .inr ⟨i, ha, ht⟩
  · -- A living observer is registered, so it is not left out.
    have hr := h.registered hl
    simp [Timeline.listens, hl, hr] at hlistens

end Turns

/-- Every action of a period keeps what has been offered exact. -/
theorem Period.step {m m' : Interleaved} {o : ObserverId} {sub : Subscription} {offered : List Entry}
    (h : m.Period o sub m' offered) {a : Action} (hsub : a.subscribes o = false)
    (hdis : a.disconnects o = false) :
    m.Period o sub (m'.step a) (offered ++ m'.offers o a) := by
  obtain ⟨s, hs, hd, hf, hw⟩ := h.state
  have ho := Timeline.lt_length_of_observer? hs
  have hco := h.sound.timeline.coherent o s hs
  have hd' : (m'.stepOn o s a).isDisconnected = false := isDisconnected_stepOn hco hd hdis
  obtain ⟨hf', hw'⟩ := stepOn_frame (m := m') hco hsub hdis
  have hs' := observer?_step_eq h.sound.timeline hs a
  have hconn : (m'.step a).timeline.isConnected o = true := by
    simp [Timeline.isConnected, hs', hd']
  -- Whatever is offered is offered in a turn, and it is one for the subscription.
  have hoffer (e : Entry) (he : e ∈ m'.offers o a) : ∃ i, a = .turn i ∧ m'.turn? i = some (e, o) ∧
      sub.filter.admits e = true ∧ ∀ x ∈ sub.retained m.timeline.recorder, x.sequence < e.sequence := by
    obtain ⟨i, ha, ht, hacc⟩ := mem_offers_of_not_subscribes hs hsub he
    exact ⟨i, ha, ht, (Period.accepts_iff hd hf hw h.sound ht).mp hacc⟩
  refine ⟨h.sound.step a, ⟨_, hs', hd', ?_, hw'.trans hw⟩, ?_, ?_, ?_, ?_, ?_, ?_, ?_⟩
  · intro e
    rw [hf']
    exact hf e
  · intro hl
    have hl' := isLive_of_isLive_step h.sound.timeline ho hl
    exact mem_registry_step h.sound.timeline ho h.sound.isOpen hl hconn (h.registered hl')
  · intro i hi
    exact (isOver_step h.sound o i a).mpr (.inl (h.stillOver i hi))
  · intro e he
    rcases List.mem_append.mp he with he | he
    · obtain ⟨es, hes⟩ := entries_step m' a
      rw [hes]
      exact List.mem_append_left _ (h.reported e he)
    · obtain ⟨i, -, ht, -⟩ := hoffer e he
      exact List.mem_of_getElem? (getElem?_entries_step (getElem?_entries_of_turn h.sound ht).1 a)
  · intro e he hadmits
    exact List.mem_append_left _ (h.copied e he hadmits)
  · intro e he
    rcases List.mem_append.mp he with he | he
    · exact (h.only e he).imp id fun he => he.step h.sound a
    · obtain ⟨i, rfl, ht, hadmits, hnewer⟩ := hoffer e he
      exact .inr (h.arrived_of_turn ht hadmits hnewer)
  · intro hl e he
    have hl' := isLive_of_isLive_step h.sound.timeline ho hl
    rcases h.arrived_before hl' he with hbefore | ⟨i, rfl, ht⟩
    · exact List.mem_append_left _ (h.complete hl' e hbefore)
    · have hacc := (Period.accepts_iff hd hf hw h.sound ht).mpr ⟨he.1, he.2.1⟩
      refine List.mem_append_right _ ?_
      simp [offers, ht, hs, Observer.pushed, hacc]
  · rw [List.map_append, List.nodup_append]
    refine ⟨h.nodup, nodup_offers_of_not_subscribes hs hsub, ?_⟩
    intro x hx y hy
    obtain ⟨e, he, rfl⟩ := List.mem_map.mp hx
    obtain ⟨f, hf', rfl⟩ := List.mem_map.mp hy
    obtain ⟨i, -, ht, -, hnewer⟩ := hoffer f hf'
    exact h.sequence_ne ht hnewer he

theorem Period.run {m m' : Interleaved} {o : ObserverId} {sub : Subscription} {offered : List Entry}
    (h : m.Period o sub m' offered) {during : List Action}
    (hduring : ∀ a ∈ during, a.subscribes o = false ∧ a.disconnects o = false) :
    m.Period o sub (m'.run during) (offered ++ m'.gather (offers o) during) := by
  induction during generalizing m' offered with
  | nil =>
    rw [gather, List.append_nil]
    exact h
  | cons a during ih =>
    obtain ⟨hsub, hdis⟩ := hduring a List.mem_cons_self
    have hrest := ih (h.step hsub hdis) fun b hb => hduring b (List.mem_cons_of_mem _ hb)
    rw [gather, ← List.append_assoc]
    exact hrest

/-! ### Whole periods -/

/-- What is offered to `o` in a period that begins at `m` with `sub`. -/
structure ExactlyOnce (m : Interleaved) (o : ObserverId) (sub : Subscription) (period : List Action) :
    Prop where
  /-- Nothing is offered twice. -/
  once : ((m.gather (offers o) period).map Entry.sequence).Nodup
  /-- What is offered has been reported. -/
  reported : ∀ e ∈ m.gather (offers o) period, e ∈ (m.run period).entries
  /-- The entries looked at when the period began are offered if they pass. -/
  copied : ∀ e ∈ sub.retained m.timeline.recorder, sub.filter.admits e = true →
    (m.gather (offers o) period).count e = 1
  /-- So are the entries of reports begun in the period that are over for a living observer, -/
  fresh : (m.run period).timeline.isLive o = true → ∀ i e, m.entries.length ≤ i →
    (m.run period).entries[i]? = some e → (m.run period).isOver o i = true →
    sub.filter.admits e = true → (m.gather (offers o) period).count e = 1
  /-- and those of reports in progress when it began, if they are newer than the entries looked at. -/
  arrived : (m.run period).timeline.isLive o = true → ∀ e, m.Arrived o sub (m.run period) e →
    (m.gather (offers o) period).count e = 1
  /-- Nothing else is offered. -/
  only : ∀ e ∈ m.gather (offers o) period,
    (e ∈ sub.retained m.timeline.recorder ∧ sub.filter.admits e = true) ∨ m.Arrived o sub (m.run period) e
  /-- The queue takes or refuses what is offered, and its drains give out what it took. -/
  queued : ∃ s, m.timeline.observer? o = some s ∧
    ((m.run period).timeline.observer? o).map Observer.asQueue =
      some (s.asQueue.after (m.gather (feed o) period)) ∧
    m.gather (drained o) period = s.asQueue.outputs (m.gather (feed o) period)

/-- A report begun in the period is numbered above whatever was stored when the period began. -/
theorem arrived_of_fresh {m m' : Interleaved} {o : ObserverId} {sub : Subscription} (h : m.Sound)
    (h' : m'.Sound) {i : Nat} {e : Entry} (hi : m.entries.length ≤ i) (he : m'.entries[i]? = some e)
    (hover : m'.isOver o i = true) (hadmits : sub.filter.admits e = true) : m.Arrived o sub m' e := by
  have hlen : m.entries.length = m.timeline.recorder.sequence := by
    rw [← h.counted]
    exact List.length_map _
  have hseq := sequence_of_entries h' he
  refine ⟨hadmits, ?_, i, he, hover, ?_⟩
  · intro x hx
    obtain ⟨t, hsub⟩ := Subscription.retained_sublist m.timeline.recorder sub
    have hle := h.timeline.ordered.le_counter t x (hsub.subset hx)
    omega
  · have hnone : m.deliveries[i]? = none := List.getElem?_eq_none (by simpa [entries] using hi)
    simp [isOver, hnone]

/-- From one effective subscription of an observer until its next one or its disconnection, in any run in
which reports are taken to pieces and anything may happen between the pieces, each reported entry is offered
to the observer at most once, and exactly once if it is one for the subscription. -/
theorem offered_exactly_once (capacities : Capacities) (before during : List Action) (o : ObserverId)
    (sub : Subscription) (hlive : ((new capacities).run before).timeline.isLive o = true)
    (hconn : ((new capacities).run before).timeline.isConnected o = true)
    (hduring : ∀ a ∈ during, a.subscribes o = false ∧ a.disconnects o = false) :
    ((new capacities).run before).ExactlyOnce o sub (sub.action o :: during) := by
  have hsound := (sound_new capacities).run before
  generalize (new capacities).run before = m at *
  have hperiod : m.Period o sub (m.run (sub.action o :: during))
      (m.gather (offers o) (sub.action o :: during)) :=
    (Period.begin hsound hlive hconn sub).run hduring
  have hnodup : (m.gather (offers o) (sub.action o :: during)).Nodup :=
    List.Pairwise.of_map Entry.sequence (fun a b hne hab => hne (congrArg _ hab)) hperiod.nodup
  have exactly {e : Entry} (he : e ∈ m.gather (offers o) (sub.action o :: during)) :
      (m.gather (offers o) (sub.action o :: during)).count e = 1 := by
    rw [hnodup.count, if_pos he]
  obtain ⟨s, hs, hd⟩ := Timeline.exists_of_isConnected hconn
  refine ⟨hperiod.nodup, hperiod.reported, ?_, ?_, ?_, hperiod.only, s, hs, ?_⟩
  · intro e he hadmits
    exact exactly (hperiod.copied e he hadmits)
  · intro hl i e hi he hover hadmits
    exact exactly (hperiod.complete hl e (arrived_of_fresh hsound hperiod.sound hi he hover hadmits))
  · intro hl e he
    exact exactly (hperiod.complete hl e he)
  · refine fed_run hsound hs hd ?_
    intro a ha
    rcases List.mem_cons.mp ha with rfl | ha
    · cases sub <;> rfl
    · exact (hduring a ha).2

/-- An observer subscribes again, to what is stored, while its turn for the stored mark is still to come;
another mark is reported after that. -/
theorem offered_exactly_once_in_the_middle :
    let marks : Subscription := .one .mark {}
    let again : Subscription := .one .mark ⟨true, none⟩
    let before := [.operate (.create 9 .direct) rfl, .operate (.create 9 .direct) rfl, marks.action 0,
      marks.action 1, .store (.mark "a" .zero), .list 0, .turn 0]
    let during := [.turn 0, .store (.mark "b" .zero), .list 1, .turn 1, .turn 1]
    let m := (new .standard).run before
    m.timeline.isLive 1 = true ∧ m.timeline.isConnected 1 = true ∧
      (∀ a ∈ during, a.subscribes 1 = false ∧ a.disconnects 1 = false) ∧
      m.ExactlyOnce 1 again (again.action 1 :: during) ∧
      (m.gather (offers 1) (again.action 1 :: during)).map Entry.name = ["a", "b"] := by
  intro marks again before during m
  have hlive : m.timeline.isLive 1 = true := by decide
  have hconn : m.timeline.isConnected 1 = true := by decide
  have hduring : ∀ a ∈ during, a.subscribes 1 = false ∧ a.disconnects 1 = false := by
    intro a ha
    simp only [during, List.mem_cons, List.not_mem_nil, or_false] at ha
    rcases ha with rfl | rfl | rfl | rfl | rfl <;> exact ⟨rfl, rfl⟩
  have honce := offered_exactly_once .standard before during 1 again hlive hconn hduring
  exact ⟨hlive, hconn, hduring, honce, by decide⟩

end Interleaved

end PerfTimeline
