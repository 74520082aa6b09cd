import PerfTimeline.Proofs.Delivery.ExactlyOnce
import PerfTimeline.Proofs.Delivery.Reentrant
import PerfTimeline.Proofs.Timeline.Pending

/-!
# Records that are pending twice, with reports in pieces

While a report is in progress there is a second way in which a queue comes to hold an entry twice: a new
subscription forgets what was offered for the old one, so it may let an entry in again that is pending and
whose turn is still to come. There is no third.
-/

namespace PerfTimeline.Interleaved

/-- What an action adds to the queue of `o`: as much of what it offers as there is room for. -/
def queued (o : ObserverId) (m : Interleaved) (a : Action) : List Entry :=
  (m.offers o a).take ((m.timeline.observer? o).elim 0 (·.room))

/-- Whether an action subscribes `o` and copies an entry into its queue that is pending there already. -/
def recopies (o : ObserverId) (m : Interleaved) : Action → Bool
  | .operate op _ => m.timeline.recopies o op
  | _ => false

/-- Whether an action subscribes `o` and leaves it ready to accept an entry that is pending there, in a report
that is not over for it. -/
def reopens (o : ObserverId) (m : Interleaved) (a : Action) : Bool :=
  a.subscribes o && m.deliveries.any fun d => !d.isOver o && (m.step a).timeline.awaits o d.entry &&
    ((m.step a).timeline.observer? o).any (·.accepts d.entry)

/-- Whether either of these happens in the course of a run. -/
def repeats (o : ObserverId) (m : Interleaved) : List Action → Bool
  | [] => false
  | a :: actions => m.recopies o a || m.reopens o a || (m.step a).repeats o actions

variable {m : Interleaved} {o : ObserverId} {s : Observer} {a : Action}

theorem queued_eq (hs : m.timeline.observer? o = some s) (a : Action) :
    m.queued o a = (m.offers o a).take s.room := by
  rw [queued, hs]
  rfl

theorem queued_of_not_offered (ha : m.offers o a = []) : m.queued o a = [] := by
  rw [queued, ha, List.take_nil]

/-! ### Queues after an action -/

/-- An action empties the queue, or it adds to it. -/
theorem queue_stepOn (h : m.Sound) (hs : m.timeline.observer? o = some s) (a : Action) :
    (m.stepOn o s a).queue = [] ∨ (m.stepOn o s a).queue = s.queue ++ m.queued o a := by
  have hco := h.timeline.coherent o s hs
  have same (ha : m.offers o a = []) : s.queue = [] ∨ s.queue = s.queue ++ m.queued o a := by
    rw [queued_of_not_offered ha, List.append_nil]
    exact .inr rfl
  cases a with
  | count name => exact same rfl
  | store e => exact same rfl
  | list i => exact same rfl
  | turn i =>
    rw [queued_eq hs]
    unfold stepOn offers
    dsimp only
    cases m.turn? i with
    | none => exact .inr (by simp)
    | some turn =>
      obtain ⟨e, p⟩ := turn
      by_cases hp : p = o
      · simp only [hp, ite_true, hs, Option.elim_some]
        rw [Observer.push_eq_fill hco, Observer.pushed]
        split
        · exact .inr rfl
        · exact .inr (by simp)
      · exact .inr (by simp [hp])
  | operate op hop =>
    cases op with
    | observeOne p t options =>
      rw [queued_eq hs]
      simp only [stepOn, Timeline.effectOn, offers]
      split
      · cases hd : s.isDisconnected with
        | true =>
          rw [Observer.observeOne_of_isDisconnected hd]
          exact .inl (Observer.queue_of_isDisconnected hco hd)
        | false =>
          rw [Observer.observeOne_eq_fill hco hd]
          exact .inr rfl
      · exact .inr (by rw [List.take_nil, List.append_nil])
    | observeMany p types =>
      have hqueue : (m.stepOn o s (.operate (.observeMany p types) hop)).queue = s.queue := by
        simp only [stepOn, Timeline.effectOn]
        split
        · exact Observer.queue_observeMany s types
        · rfl
      rw [hqueue]
      exact same rfl
    | take p sorted =>
      simp only [stepOn, Timeline.effectOn]
      split
      · exact .inl rfl
      · exact same rfl
    | disconnect p =>
      simp only [stepOn, Timeline.effectOn]
      split
      · refine .inl (Observer.queue_of_isDisconnected (Observer.coherent_disconnect hco) ?_)
        exact Observer.isDisconnected_disconnect s
      · exact same rfl
    | _ => first | exact same rfl | cases hop

theorem isDisconnected_stepOn_of_isDisconnected (hd : s.isDisconnected = true) (a : Action) :
    (m.stepOn o s a).isDisconnected = true := by
  cases a with
  | turn i =>
    unfold stepOn
    dsimp only
    split
    · split
      · rw [Observer.push_of_isDisconnected hd]
        exact hd
      · exact hd
    · exact hd
  | operate op hop => exact Timeline.isDisconnected_effectOn m.timeline o hd op
  | _ => exact hd

/-- Only a subscription makes an observer accept what it would not have accepted before. -/
theorem accepts_of_stepOn (h : s.Coherent) (hsub : a.subscribes o = false) {e : Entry}
    (hacc : (m.stepOn o s a).accepts e = true) : s.accepts e = true := by
  have hconn := Observer.isDisconnected_of_accepts hacc
  have hd : s.isDisconnected = false := by
    cases hd : s.isDisconnected with
    | false => rfl
    | true => rw [isDisconnected_stepOn_of_isDisconnected hd] at hconn; cases hconn
  cases hdis : a.disconnects o with
  | false =>
    obtain ⟨hfilter, hwatermark⟩ := stepOn_frame (m := m) h hsub hdis
    simp only [Observer.accepts, Observer.admits, Observer.hasCopied, hfilter, hwatermark, hconn] at hacc
    simpa only [Observer.accepts, Observer.admits, Observer.hasCopied, hd] using hacc
  | true =>
    cases a with
    | operate op hop =>
      cases op with
      | disconnect p =>
        simp only [stepOn, Timeline.effectOn] at hacc hconn
        split at hacc
        · rename_i hp
          rw [if_pos hp, Observer.isDisconnected_disconnect] at hconn
          cases hconn
        · exact hacc
      | _ => cases hdis
    | _ => cases hdis

/-! ### No record twice -/

/-- No entry is pending twice at `o`, whose state is `s`, and none that is pending will be accepted again in
its turn. -/
structure Unrepeated (m : Interleaved) (o : ObserverId) (s : Observer) : Prop where
  nodup : (s.queue.map Entry.sequence).Nodup
  reported : ∀ x ∈ s.queue, x ∈ m.entries
  settled : ∀ i e, m.entries[i]? = some e → m.isOver o i = false → s.accepts e = true →
    ∀ x ∈ s.queue, x.sequence ≠ e.sequence

theorem unrepeated_of_empty (h : s.queue = []) : m.Unrepeated o s := by
  constructor
  · rw [h]
    exact List.nodup_nil
  · intro x hx
    rw [h] at hx
    exact nomatch hx
  · intro i e _ _ _ x hx
    rw [h] at hx
    exact nomatch hx

theorem offers_of_subscribes (h : m.Sound) (o : ObserverId) (hsub : a.subscribes o = true) :
    ((m.offers o a).map Entry.sequence).Nodup ∧ ∀ x ∈ m.offers o a, x ∈ m.entries := by
  have nothing (ha : m.offers o a = []) :
      ((m.offers o a).map Entry.sequence).Nodup ∧ ∀ x ∈ m.offers o a, x ∈ m.entries := by
    rw [ha]
    exact ⟨List.nodup_nil, fun x hx => nomatch hx⟩
  cases a with
  | operate op hop =>
    cases op with
    | observeOne p t options =>
      obtain rfl : p = o := by simpa [Action.subscribes, Operation.subscribes] using hsub
      cases hl : m.timeline.isLive p with
      | false => exact nothing (by simp [offers, hl])
      | true => exact offers_action_stored h hl (.one t options)
    | _ => exact nothing rfl
  | _ => cases hsub

theorem mem_entries_of_queued (h : m.Sound) (hs : m.timeline.observer? o = some s) {x : Entry}
    (hx : x ∈ m.queued o a) : x ∈ m.entries := by
  rw [queued_eq hs] at hx
  have hx := List.mem_of_mem_take hx
  cases hsub : a.subscribes o with
  | true => exact (offers_of_subscribes h o hsub).2 x hx
  | false =>
    obtain ⟨i, -, ht, -⟩ := mem_offers_of_not_subscribes hs hsub hx
    exact List.mem_of_getElem? (getElem?_entries_of_turn h ht).1

theorem nodup_queued (h : m.Sound) (hs : m.timeline.observer? o = some s) (a : Action) :
    ((m.queued o a).map Entry.sequence).Nodup := by
  have hnodup : ((m.offers o a).map Entry.sequence).Nodup := by
    cases hsub : a.subscribes o with
    | true => exact (offers_of_subscribes h o hsub).1
    | false => exact nodup_offers_of_not_subscribes hs hsub
  rw [queued_eq hs]
  exact hnodup.sublist ((List.take_sublist _ _).map _)

/-- An entry whose report is in progress after an action was reported before and in progress then, or it is
newer than all that were reported. -/
theorem unsettled_before (h : m.Sound) (a : Action) {i : Nat} {e : Entry}
    (he : (m.step a).entries[i]? = some e) (hover : (m.step a).isOver o i = false) :
    (m.entries[i]? = some e ∧ m.isOver o i = false) ∨ ∀ x ∈ m.entries, x.sequence ≠ e.sequence := by
  obtain ⟨es, hes⟩ := entries_step m a
  by_cases hi : i < m.entries.length
  · left
    rw [hes, List.getElem?_append_left hi] at he
    refine ⟨he, ?_⟩
    cases hbefore : m.isOver o i with
    | false => rfl
    | true => rw [(isOver_step h o i a).mpr (.inl hbefore)] at hover; exact nomatch hover
  · -- Entries are numbered as they stand, so a place beyond the end has a number above all others.
    right
    intro x hx
    obtain ⟨j, hj⟩ := List.mem_iff_getElem?.mp hx
    have hlt := (List.getElem?_eq_some_iff.mp hj).1
    have hx := sequence_of_entries h hj
    have he := sequence_of_entries (h.step a) he
    omega

theorem sequence_ne_of_subscribes (hs : m.timeline.observer? o = some s) (hsub : a.subscribes o = true)
    (hcopy : m.recopies o a = false) {x y : Entry} (hx : x ∈ s.queue) (hy : y ∈ m.queued o a) :
    x.sequence ≠ y.sequence := by
  rw [queued_eq hs] at hy
  cases a with
  | operate op hop =>
    cases op with
    | observeOne p t options =>
      obtain rfl : p = o := by simpa [Action.subscribes, Operation.subscribes] using hsub
      cases hl : m.timeline.isLive p with
      | false => simp [offers, hl] at hy
      | true =>
        simp only [offers, hl, and_self, ite_true] at hy
        exact Timeline.not_recopies hs hl hcopy hx hy
    | _ => simp [offers] at hy
  | _ => cases hsub

theorem Unrepeated.sequence_ne (h : m.Unrepeated o s) (hm : m.Sound)
    (hs : m.timeline.observer? o = some s) (hcopy : m.recopies o a = false) {x y : Entry}
    (hx : x ∈ s.queue) (hy : y ∈ m.queued o a) : x.sequence ≠ y.sequence := by
  cases hsub : a.subscribes o with
  | true => exact sequence_ne_of_subscribes hs hsub hcopy hx hy
  | false =>
    rw [queued_eq hs] at hy
    obtain ⟨i, -, ht, hacc⟩ := mem_offers_of_not_subscribes hs hsub (List.mem_of_mem_take hy)
    obtain ⟨hentry, -, hover⟩ := getElem?_entries_of_turn hm ht
    exact h.settled i y hentry hover hacc x hx

/-- A subscription that does not let a pending entry in again leaves none that could come. -/
theorem settled_of_subscribes {s' : Observer} (hs' : (m.step a).timeline.observer? o = some s')
    (hsub : a.subscribes o = true) (hopen : m.reopens o a = false) {i : Nat} {e : Entry}
    (he : (m.step a).entries[i]? = some e) (hover : (m.step a).isOver o i = false)
    (hacc : s'.accepts e = true) {x : Entry} (hx : x ∈ s'.queue) : x.sequence ≠ e.sequence := by
  intro heq
  have hdeliveries : (m.step a).deliveries = m.deliveries := by
    cases a with
    | operate op hop => rfl
    | _ => exact nomatch hsub
  unfold entries at he
  unfold isOver at hover
  rw [hdeliveries] at he hover
  rw [List.getElem?_map, Option.map_eq_some_iff] at he
  obtain ⟨d, hd, rfl⟩ := he
  rw [hd, Option.any_some] at hover
  have hawaits : (m.step a).timeline.awaits o d.entry = true :=
    (Timeline.awaits_iff hs' d.entry).mpr ⟨x, hx, heq⟩
  have hreopens : m.reopens o a = true := by
    rw [reopens, hsub, Bool.true_and, List.any_eq_true]
    exact ⟨d, List.mem_of_getElem? hd, by simp [hover, hawaits, hs', hacc]⟩
  rw [hopen] at hreopens
  exact nomatch hreopens

/-- An action keeps every record single unless it copies what is pending or lets it in again. -/
theorem Unrepeated.step (h : m.Unrepeated o s) (hm : m.Sound) (hs : m.timeline.observer? o = some s)
    (hcopy : m.recopies o a = false) (hopen : m.reopens o a = false) :
    (m.step a).Unrepeated o (m.stepOn o s a) := by
  have hco := hm.timeline.coherent o s hs
  have hs' := observer?_step_eq hm.timeline hs a
  rcases queue_stepOn hm hs a with hempty | hqueue
  · exact unrepeated_of_empty hempty
  · have hentries : ∀ x ∈ s.queue ++ m.queued o a, x ∈ m.entries := fun x hx =>
      (List.mem_append.mp hx).elim (h.reported x) (mem_entries_of_queued hm hs)
    constructor
    · rw [hqueue]
      exact Entry.nodup_sequence_append h.nodup (nodup_queued hm hs a)
        fun x hx y hy => h.sequence_ne hm hs hcopy hx hy
    · intro x hx
      rw [hqueue] at hx
      obtain ⟨es, hes⟩ := entries_step m a
      rw [hes]
      exact List.mem_append_left _ (hentries x hx)
    · intro i e he hover hacc x hx
      cases hsub : a.subscribes o with
      | true => exact settled_of_subscribes hs' hsub hopen he hover hacc hx
      | false =>
        rw [hqueue] at hx
        rcases unsettled_before hm a he hover with ⟨he', hover'⟩ | hnewer
        · rcases List.mem_append.mp hx with hx | hx
          · exact h.settled i e he' hover' (accepts_of_stepOn hco hsub hacc) x hx
          · -- The record has just had its turn, so the turn of its report is not still to come.
            intro heq
            rw [queued_eq hs] at hx
            obtain ⟨j, rfl, ht, -⟩ := mem_offers_of_not_subscribes hs hsub (List.mem_of_mem_take hx)
            have hx := (getElem?_entries_of_turn hm ht).2.1
            have he := sequence_of_entries hm he'
            obtain rfl : j = i := by omega
            rw [(isOver_step hm o j _).mpr (.inr (.inl ⟨rfl, x, ht⟩))] at hover
            exact nomatch hover
        · exact hnewer x (hentries x hx)

theorem Unrepeated.run (h : m.Unrepeated o s) (hm : m.Sound) (hs : m.timeline.observer? o = some s)
    {actions : List Action} (hactions : m.repeats o actions = false) :
    (((m.run actions).timeline.pending o).map Entry.sequence).Nodup := by
  induction actions generalizing m s with
  | nil =>
    rw [run_nil, Timeline.pending_eq hs]
    exact h.nodup
  | cons a actions ih =>
    simp only [repeats, Bool.or_eq_false_iff] at hactions
    obtain ⟨⟨hcopy, hopen⟩, hrest⟩ := hactions
    exact ih (h.step hm hs hcopy hopen) (hm.step a) (observer?_step_eq hm.timeline hs a) hrest

/-! ### Whole runs -/

/-- Subscribing twice to what is stored queues it twice. So does subscribing to it, and then subscribing
anew, in the middle of its report. -/
theorem pending_twice :
    let stored : ObserveOptions := ⟨true, none⟩
    let again := (Timeline.new .standard ()).run .quiet
      [.report (.mark "a" .zero), .create 9 .direct, .observeOne 0 .mark stored, .observeOne 0 .mark stored]
    let plan : ObserverId → Timeline Unit → List Operation := fun o _ =>
      if o = 0 then [.observeOne 1 .mark stored, .observeMany 1 [.mark]] else []
    let within := (Timeline.new .standard ()).run (Hooks.quiet.planned plan 1)
      [.create 9 .direct, .create 9 .direct, .observeOne 0 .mark {}, .observeOne 1 .mark {},
        .report (.mark "a" .zero)]
    ((again.pending 0).map Entry.sequence = [1, 1] ∧ ¬((again.pending 0).map Entry.sequence).Nodup) ∧
      (within.pending 1).map Entry.sequence = [1, 1] ∧
        ¬((within.pending 1).map Entry.sequence).Nodup := by
  decide

/-- As long as callbacks leave the timeline alone, a queue holds no entry twice unless a subscription has,
since the queue was empty, copied an entry into it that was pending there; and every such subscription leaves
each entry that it has copied so pending there twice at least. With reports in pieces and anything between the
pieces, a queue holds no entry twice unless a subscription has done so or, in the middle of a report of a
pending entry, has made the observer accept it again. -/
theorem pending_nodup {ε : Type} {hooks : Hooks ε} (hp : hooks.Passive) (capacities : Capacities)
    (host : ε) (o : ObserverId) :
    (∀ (before after : List Operation) (s : Observer), (∀ op ∈ after, op.isDirect = false) →
      ((Timeline.new capacities host).run hooks before).observer? o = some s → s.queue = [] →
      ((Timeline.new capacities host).run hooks before).recopiesIn hooks o after = false →
      ((((Timeline.new capacities host).run hooks (before ++ after)).pending o).map
        Entry.sequence).Nodup) ∧
    (∀ (before : List Operation) (op : Operation),
      let tl := (Timeline.new capacities host).run hooks before
      tl.recopies o op = true → ∃ t options, op = .observeOne o t options ∧
        (∃ e ∈ tl.copies o t options, tl.awaits o e = true) ∧
        ∀ e ∈ tl.copies o t options, tl.awaits o e = true →
          2 ≤ ((((Timeline.new capacities host).run hooks (before ++ [op])).pending o).map
            Entry.sequence).count e.sequence) ∧
    ∀ (before after : List Action) (s : Observer),
      ((new capacities).run before).timeline.observer? o = some s → s.queue = [] →
      ((new capacities).run before).repeats o after = false →
      ((((new capacities).run (before ++ after)).timeline.pending o).map Entry.sequence).Nodup := by
  have hsound (ops : List Operation) : ((Timeline.new capacities host).run hooks ops).Sound :=
    (Timeline.sound_new capacities host).run hp ops
  refine ⟨?_, ?_, ?_⟩
  · intro before after s hdirect hs hempty hcopy
    rw [Timeline.run_append]
    exact (Timeline.single_of_empty hempty).run hp (hsound before) hs hdirect hcopy
  · intro before op tl hcopy
    obtain ⟨hl, t, options, rfl, hany⟩ := Timeline.recopies_iff.mp hcopy
    refine ⟨t, options, rfl, hany, fun e he hawaits => ?_⟩
    rw [Timeline.run_append]
    exact Timeline.two_le_count_of_awaits hp (hsound before) hl he hawaits
  · intro before after s hs hempty hafter
    rw [run_append]
    exact (unrepeated_of_empty hempty).run ((sound_new capacities).run before) hs hafter

/-- A mark is copied a second time after it has been taken, and then a measure joins it; copied once more, it is
pending twice. In the middle of the report of a mark an observer of marks turns to measures, and back after its
turn. -/
theorem pending_nodup_resubscribed :
    let stored : ObserveOptions := ⟨true, none⟩
    let before : List Operation :=
      [.report (.mark "a" .zero), .create 9 .direct, .observeOne 0 .mark stored, .take 0 false]
    let after : List Operation :=
      [.observeOne 0 .mark stored, .observeOne 0 .measure stored, .report (.measure "b" .zero .zero)]
    let tl := (Timeline.new .standard ()).run .quiet (before ++ after)
    let again := (Timeline.new .standard ()).run .quiet (before ++ after ++ [.observeOne 0 .mark stored])
    let begun : List Action := [.operate (.create 9 .direct) rfl, .operate (.observeOne 0 .mark {}) rfl]
    let within : List Action :=
      [.store (.mark "a" .zero), .list 0, .operate (.observeOne 0 .measure stored) rfl, .turn 0,
        .operate (.observeMany 0 [.mark]) rfl, .store (.mark "b" .zero), .list 1, .turn 1]
    let m := (new .standard).run (begun ++ within)
    Hooks.quiet.Passive ∧ ((tl.pending 0).map Entry.sequence).Nodup ∧
      (tl.pending 0).map Entry.sequence = [1, 2] ∧
      2 ≤ ((again.pending 0).map Entry.sequence).count 1 ∧
      ((m.timeline.pending 0).map Entry.sequence).Nodup ∧
      (m.timeline.pending 0).map Entry.sequence = [2] := by
  intro stored before after tl again begun within m
  obtain ⟨plain, twice, pieces⟩ := pending_nodup Hooks.passive_quiet .standard () 0
  have hdirect : ∀ op ∈ after, op.isDirect = false := by decide
  have hplain := plain before after
    { limit := 9, filter := .one .mark stored, watermark := some 1 } hdirect (by decide) rfl (by decide)
  have htwice : 2 ≤ ((again.pending 0).map Entry.sequence).count 1 := by
    obtain ⟨t, options, hop, -, hcount⟩ := twice (before ++ after) (.observeOne 0 .mark stored) (by decide)
    obtain ⟨-, rfl, rfl⟩ := Operation.observeOne.inj hop
    exact hcount ((Entry.mark "a" .zero).withSequence 1) (by decide) (by decide)
  have hpieces := pieces begun within { limit := 9, filter := .one .mark {} } (by decide) rfl (by decide)
  exact ⟨Hooks.passive_quiet, hplain, by decide, htwice, hpieces, by decide⟩

end PerfTimeline.Interleaved
