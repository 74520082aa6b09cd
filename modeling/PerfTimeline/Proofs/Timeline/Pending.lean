import PerfTimeline.Proofs.Timeline.Pointwise

/-!
# Records that are pending twice

A queue may live through several subscriptions, and each of them begins anew: a buffered one copies whatever
is stored, also what is pending already. As long as callbacks leave the timeline alone, this is the only way
in which a queue comes to hold an entry twice, and a sure one.
-/

namespace PerfTimeline

theorem Entry.nodup_sequence_append {xs ys : List Entry} (hxs : (xs.map sequence).Nodup)
    (hys : (ys.map sequence).Nodup) (hne : ∀ x ∈ xs, ∀ y ∈ ys, x.sequence ≠ y.sequence) :
    ((xs ++ ys).map sequence).Nodup := by
  rw [List.map_append, List.nodup_append]
  refine ⟨hxs, hys, ?_⟩
  intro i hi j hj
  obtain ⟨x, hx, rfl⟩ := List.mem_map.mp hi
  obtain ⟨y, hy, rfl⟩ := List.mem_map.mp hj
  exact hne x hx y hy

namespace Timeline

variable {ε : Type}

/-- What the queue of `o` holds. -/
def pending (tl : Timeline ε) (o : ObserverId) : List Entry := (tl.observer? o).elim [] (·.queue)

/-- Whether an entry is pending at `o`, known by its number. -/
def awaits (o : ObserverId) (tl : Timeline ε) (e : Entry) : Bool :=
  (tl.pending o).any (·.sequence == e.sequence)

/-- What a subscription of `o` copies into its queue: as much as there is room for. -/
def copies (o : ObserverId) (tl : Timeline ε) (t : EntryType) (options : ObserveOptions) : List Entry :=
  (Observer.copied options (tl.reachable t)).take ((tl.observer? o).elim 0 (·.room))

/-- Whether an operation subscribes `o` and copies an entry into its queue that is pending there already. -/
def recopies (o : ObserverId) (tl : Timeline ε) : Operation → Bool
  | .observeOne p t options => p == o && tl.isLive o && (tl.copies o t options).any (tl.awaits o)
  | _ => false

/-- Whether this happens in the course of a run. -/
def recopiesIn (hooks : Hooks ε) (o : ObserverId) (tl : Timeline ε) : List Operation → Bool
  | [] => false
  | op :: ops => tl.recopies o op || recopiesIn hooks o (tl.perform hooks op).1 ops

variable {hooks : Hooks ε} {tl : Timeline ε} {o : ObserverId} {s : Observer}

theorem pending_eq (hs : tl.observer? o = some s) : tl.pending o = s.queue := by
  rw [pending, hs]
  rfl

theorem copies_eq (hs : tl.observer? o = some s) (t : EntryType) (options : ObserveOptions) :
    tl.copies o t options = (Observer.copied options (tl.reachable t)).take s.room := by
  rw [copies, hs]
  rfl

theorem awaits_iff (hs : tl.observer? o = some s) (e : Entry) :
    tl.awaits o e = true ↔ ∃ x ∈ s.queue, x.sequence = e.sequence := by
  simp [awaits, pending_eq hs]

theorem recopies_iff {op : Operation} : tl.recopies o op = true ↔
    tl.isLive o = true ∧ ∃ t options, op = .observeOne o t options ∧
      ∃ e ∈ tl.copies o t options, tl.awaits o e = true := by
  cases op with
  | observeOne p t options =>
    simp only [recopies, Bool.and_eq_true, beq_iff_eq, List.any_eq_true, Operation.observeOne.injEq]
    constructor
    · rintro ⟨⟨rfl, hl⟩, he⟩
      exact ⟨hl, t, options, ⟨rfl, rfl, rfl⟩, he⟩
    · rintro ⟨hl, _, _, ⟨rfl, rfl, rfl⟩, he⟩
      exact ⟨⟨rfl, hl⟩, he⟩
  | _ => simp [recopies]

theorem not_recopies (hs : tl.observer? o = some s) (hl : tl.isLive o = true) {t : EntryType}
    {options : ObserveOptions} (h : tl.recopies o (.observeOne o t options) = false) {x y : Entry}
    (hx : x ∈ s.queue) (hy : y ∈ (Observer.copied options (tl.reachable t)).take s.room) :
    x.sequence ≠ y.sequence := by
  intro heq
  have hrecopies : tl.recopies o (.observeOne o t options) = true := by
    rw [← copies_eq hs] at hy
    exact recopies_iff.mpr ⟨hl, t, options, rfl, y, hy, (awaits_iff hs y).mpr ⟨x, hx, heq⟩⟩
  rw [h] at hrecopies
  exact nomatch hrecopies

/-- What a subscription looks at is stored under different numbers, up to the counter. -/
theorem copied_reachable (h : tl.recorder.Ordered) (t : EntryType) (options : ObserveOptions) :
    ((Observer.copied options (tl.reachable t)).map Entry.sequence).Nodup ∧
      ∀ x ∈ Observer.copied options (tl.reachable t), x.sequence ≤ tl.recorder.sequence := by
  have hsub : (Observer.copied options (tl.reachable t)).Sublist (tl.recorder.buffer t).entries := by
    unfold Observer.copied reachable
    rw [Recorder.select_none]
    split
    · split
      · exact List.filter_sublist
      · exact List.nil_sublist _
    · exact List.nil_sublist _
  refine ⟨?_, fun x hx => h.le_counter t x (hsub.subset hx)⟩
  rw [List.Nodup, List.pairwise_map]
  exact ((h.ascending t).imp fun hlt => Nat.ne_of_lt hlt).sublist hsub

/-! ### No record twice -/

/-- No entry is pending twice in the queue of `s`, and all that is pending was stored. -/
structure Single (tl : Timeline ε) (s : Observer) : Prop where
  nodup : (s.queue.map Entry.sequence).Nodup
  stored : ∀ x ∈ s.queue, x.sequence ≤ tl.recorder.sequence

theorem single_of_empty (h : s.queue = []) : tl.Single s := by
  constructor
  · rw [h]
    exact List.nodup_nil
  · intro x hx
    rw [h] at hx
    exact nomatch hx

theorem Single.with_recorder {tl' : Timeline ε} (h : tl.Single s)
    (hle : tl.recorder.sequence ≤ tl'.recorder.sequence) : tl'.Single s :=
  ⟨h.nodup, fun x hx => Nat.le_trans (h.stored x hx) hle⟩

theorem Single.fill {es : List Entry} (h : tl.Single s) (hes : (es.map Entry.sequence).Nodup)
    (hstored : ∀ x ∈ es, x.sequence ≤ tl.recorder.sequence)
    (hne : ∀ x ∈ s.queue, ∀ y ∈ es.take s.room, x.sequence ≠ y.sequence) : tl.Single (s.fill es) := by
  have htaken : ((es.take s.room).map Entry.sequence).Nodup :=
    hes.sublist ((List.take_sublist _ _).map _)
  refine ⟨Entry.nodup_sequence_append h.nodup htaken hne, fun x hx => ?_⟩
  have hx : x ∈ s.queue ++ es.take s.room := hx
  rcases List.mem_append.mp hx with hx | hx
  · exact h.stored x hx
  · exact hstored x (List.mem_of_mem_take hx)

theorem Single.report {tl' : Timeline ε} (h : tl.Single s) (hco : s.Coherent) (e : Entry)
    (hnext : tl'.recorder.sequence = tl.recorder.sequence + 1) :
    tl'.Single (s.push (e.withSequence (tl.recorder.sequence + 1))).1 := by
  have hkept : tl'.Single s := h.with_recorder (by omega)
  rw [Observer.push_eq_fill hco]
  split
  · refine hkept.fill (by simp) ?_ ?_
    · intro x hx
      rw [List.mem_singleton.mp hx, Entry.sequence_withSequence]
      omega
    · intro x hx y hy
      have hle := h.stored x hx
      rw [List.mem_singleton.mp (List.mem_of_mem_take hy), Entry.sequence_withSequence]
      omega
  · exact hkept

theorem Single.observeOne (h : tl.Single s) (hsound : tl.Sound) (hs : tl.observer? o = some s)
    (hl : tl.isLive o = true) {t : EntryType} {options : ObserveOptions}
    (hcopy : tl.recopies o (.observeOne o t options) = false) :
    tl.Single (s.observeOne t options (tl.reachable t)).1 := by
  cases hd : s.isDisconnected with
  | true =>
    rw [Observer.observeOne_of_isDisconnected hd]
    exact h
  | false =>
    obtain ⟨hnodup, hstored⟩ := copied_reachable hsound.ordered t options
    have hsubscribed : tl.Single (s.subscribe t options (tl.reachable t)) := ⟨h.nodup, h.stored⟩
    rw [Observer.observeOne_eq_fill (hsound.coherent o s hs) hd]
    exact hsubscribed.fill hnodup hstored fun x hx y hy => not_recopies hs hl hcopy hx hy

/-- An operation keeps every record single unless it copies what is pending. -/
theorem Single.effect (h : tl.Single s) (hsound : tl.Sound) (hs : tl.observer? o = some s)
    {op : Operation} (hdirect : op.isDirect = false) (hcopy : tl.recopies o op = false) :
    (tl.effect op).Single (tl.effectOn o s op) := by
  have hco := hsound.coherent o s hs
  cases hreported : op.reported? with
  | some e =>
    have hnext : (tl.effect op).recorder.sequence = tl.recorder.sequence + 1 := by
      obtain ⟨counts, hcounts⟩ := onRecorder_of_reported hreported tl.recorder
      rw [recorder_effect, hcounts]
      rfl
    rw [effectOn_of_reported tl o s hreported]
    split
    · exact h.report hco e hnext
    · exact h.with_recorder (by omega)
  | none =>
    have hsame : (tl.effect op).recorder.sequence = tl.recorder.sequence := by
      rw [recorder_effect, sequence_onRecorder hreported]
    suffices tl.Single (tl.effectOn o s op) from this.with_recorder (Nat.le_of_eq hsame.symm)
    cases op with
    | observeOne p t options =>
      simp only [effectOn]
      split
      · rename_i hp
        obtain ⟨rfl, hl⟩ := hp
        exact h.observeOne hsound hs hl hcopy
      · exact h
    | observeMany p types =>
      simp only [effectOn]
      split
      · exact ⟨by simpa using h.nodup, by simpa using h.stored⟩
      · exact h
    | take p sorted =>
      simp only [effectOn]
      split
      · exact single_of_empty rfl
      · exact h
    | disconnect p =>
      simp only [effectOn]
      split
      · refine single_of_empty (Observer.queue_of_isDisconnected (Observer.coherent_disconnect hco) ?_)
        exact Observer.isDisconnected_disconnect s
      · exact h
    | push | fanOut => cases hdirect
    | report | reportEvent => cases hreported
    | _ => exact h

theorem observer?_perform (hp : hooks.Passive) (hsound : tl.Sound) (hs : tl.observer? o = some s)
    (op : Operation) : (tl.perform hooks op).1.observer? o = some (tl.effectOn o s op) := by
  obtain ⟨host, heq⟩ := perform_eq hp hsound.nodup op
  have heffect := observer?_effect tl (lt_length_of_observer? hs) op
  rw [hs] at heffect
  rw [heq]
  exact heffect

theorem Single.run (hp : hooks.Passive) (h : tl.Single s) (hsound : tl.Sound)
    (hs : tl.observer? o = some s) {ops : List Operation} (hdirect : ∀ op ∈ ops, op.isDirect = false)
    (hcopy : tl.recopiesIn hooks o ops = false) :
    (((tl.run hooks ops).pending o).map Entry.sequence).Nodup := by
  induction ops generalizing tl s with
  | nil =>
    rw [run_nil, pending_eq hs]
    exact h.nodup
  | cons op ops ih =>
    simp only [recopiesIn, Bool.or_eq_false_iff] at hcopy
    obtain ⟨hfirst, hrest⟩ := hcopy
    have hnext := h.effect hsound hs (hdirect op List.mem_cons_self) hfirst
    obtain ⟨host, heq⟩ := perform_eq hp hsound.nodup op
    have hnext : (tl.perform hooks op).1.Single (tl.effectOn o s op) := by
      rw [heq]
      exact ⟨hnext.nodup, hnext.stored⟩
    exact ih hnext (hsound.perform hp op) (observer?_perform hp hsound hs op)
      (fun op' hm => hdirect op' (List.mem_cons_of_mem _ hm)) hrest

/-- Where something is pending the observer is connected, so it does take the copy. -/
theorem pending_observeOne (hp : hooks.Passive) (hsound : tl.Sound) (hl : tl.isLive o = true) {e : Entry}
    (he : tl.awaits o e = true) (t : EntryType) (options : ObserveOptions) :
    (tl.perform hooks (.observeOne o t options)).1.pending o = tl.pending o ++ tl.copies o t options := by
  cases hs : tl.observer? o with
  | none => simp [awaits, pending, hs] at he
  | some s =>
    have hco := hsound.coherent o s hs
    have hd : s.isDisconnected = false := by
      obtain ⟨x, hx, -⟩ := (awaits_iff hs e).mp he
      cases hd : s.isDisconnected with
      | false => rfl
      | true => rw [Observer.queue_of_isDisconnected hco hd] at hx; cases hx
    rw [pending_eq (observer?_perform hp hsound hs _), pending_eq hs, copies_eq hs]
    simp only [effectOn, hl, and_self, ite_true]
    rw [Observer.observeOne_eq_fill hco hd]
    rfl

/-- Copying what is pending puts it into the queue once more. -/
theorem two_le_count_of_awaits (hp : hooks.Passive) (hsound : tl.Sound) (hl : tl.isLive o = true)
    {t : EntryType} {options : ObserveOptions} {e : Entry} (he : e ∈ tl.copies o t options)
    (hawaits : tl.awaits o e = true) :
    2 ≤ (((tl.perform hooks (.observeOne o t options)).1.pending o).map Entry.sequence).count e.sequence := by
  have hpending : e.sequence ∈ (tl.pending o).map Entry.sequence := by simpa [awaits] using hawaits
  have hbefore : 1 ≤ ((tl.pending o).map Entry.sequence).count e.sequence :=
    List.one_le_count_iff.mpr hpending
  have hcopy : 1 ≤ ((tl.copies o t options).map Entry.sequence).count e.sequence :=
    List.one_le_count_iff.mpr (List.mem_map_of_mem he)
  rw [pending_observeOne hp hsound hl hawaits, List.map_append, List.count_append]
  omega

end Timeline

end PerfTimeline
