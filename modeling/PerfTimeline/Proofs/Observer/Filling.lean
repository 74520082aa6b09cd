import PerfTimeline.Observer.Basic

/-!
# Filling the queue of an observer

What the operations of an observer do to its queue, in closed form. `Observer.fill` offers a list of entries
at once: those that fit are queued, the others are counted, and an idle observer with records becomes
pending. A push fills with at most one entry (`push_eq_fill`), a subscription to one type with the stored
entries it copies (`observeOne_eq_fill`). Both hold of coherent observers, whose status says whether the queue
is empty; every operation keeps an observer coherent.
-/

namespace PerfTimeline.Observer

/-! ### Queueing a list -/

/-- How many more records fit. -/
def room (o : Observer) : Nat := o.limit - o.queue.length

theorem enqueue_eq (o : Observer) (e : Entry) :
    (o.enqueue e).1 =
      { o with queue := o.queue ++ [e].take o.room, dropped := o.dropped + (1 - o.room) } := by
  by_cases h : o.queue.length < o.limit
  · have hr : 1 ≤ o.room := by unfold room; omega
    have hd : 1 - o.room = 0 := by omega
    simp only [enqueue, hasRoom, h, decide_true, ite_true, hd, Nat.add_zero]
    rw [List.take_of_length_le hr]
  · have hr : o.room = 0 := by unfold room; omega
    simp only [enqueue, hasRoom, h, decide_false, Bool.false_eq_true, ite_false, hr,
      List.take_zero, List.append_nil, Nat.sub_zero]

theorem enqueueAll_fst (o : Observer) (es : List Entry) :
    (o.enqueueAll es).1 = es.foldl (fun o e => (o.enqueue e).1) o := by
  suffices h : ∀ (o : Observer) (events : List TraceEvent),
      (es.foldl (fun (p : Observer × List TraceEvent) e =>
        ((p.1.enqueue e).1, p.2 ++ (p.1.enqueue e).2)) (o, events)).1 =
      es.foldl (fun o e => (o.enqueue e).1) o from h o []
  induction es with
  | nil => exact fun _ _ => rfl
  | cons e es ih => exact fun o events => ih _ _

/-- The entries that fit are queued in order; the others are counted as dropped. -/
theorem enqueueAll_eq (o : Observer) (es : List Entry) :
    (o.enqueueAll es).1 =
      { o with queue := o.queue ++ es.take o.room, dropped := o.dropped + (es.length - o.room) } := by
  rw [enqueueAll_fst]
  induction es generalizing o with
  | nil => simp
  | cons e es ih =>
    have hroom : (o.enqueue e).1.room = o.room - 1 := by
      rw [enqueue_eq]
      simp only [room, List.length_append, List.length_take, List.length_cons, List.length_nil]
      omega
    rw [List.foldl_cons, ih, hroom, enqueue_eq]
    cases hr : o.room with
    | zero =>
      simp only [List.take_zero, List.append_nil, Nat.zero_sub, Nat.sub_zero, List.length_cons]
      congr 1
      omega
    | succ n =>
      simp only [List.take_succ_cons, List.take_nil, List.append_assoc, List.singleton_append,
        List.length_cons, Nat.add_sub_cancel]
      congr 1
      omega

/-! ### Coherent observers -/

/-- The status of an observer says whether its queue is empty, and a disconnected observer has been emptied
of everything. -/
structure Coherent (o : Observer) : Prop where
  idle : o.status = .idle → o.queue = []
  pending : o.status = .pending → o.queue ≠ []
  disconnected : o.status = .disconnected → o = { limit := o.limit, status := .disconnected }
  bounded : o.queue.length ≤ o.limit

theorem coherent_new (limit : Nat) : Coherent { limit } where
  idle _ := rfl
  pending h := nomatch h
  disconnected h := nomatch h
  bounded := Nat.zero_le _

theorem queue_of_isDisconnected {o : Observer} (h : o.Coherent) (hd : o.isDisconnected = true) :
    o.queue = [] := by
  have hstatus : o.status = .disconnected := by simpa [isDisconnected] using hd
  rw [h.disconnected hstatus]

/-! ### Filling -/

/-- Offer entries to the queue and become pending if that leaves records in an idle observer. -/
def fill (o : Observer) (es : List Entry) : Observer :=
  { o with
    queue := o.queue ++ es.take o.room
    dropped := o.dropped + (es.length - o.room)
    status := if o.queue ++ es.take o.room = [] then o.status else .pending }

theorem awaken_enqueueAll {o : Observer} (h : o.Coherent) (hc : o.isDisconnected = false)
    (es : List Entry) : (o.enqueueAll es).1.awaken.1 = o.fill es := by
  rw [enqueueAll_eq]
  cases hs : o.status with
  | idle =>
    by_cases hq : o.queue ++ es.take o.room = []
    · simp [awaken, fill, hs, hq]
    · simp only [awaken, fill, hs, hq, ne_eq, not_false_eq_true, and_self, ite_true, ite_false]
  | pending => simp [awaken, fill, h.pending hs]
  | disconnected => simp [isDisconnected, hs] at hc

theorem coherent_fill {o : Observer} (h : o.Coherent) (hc : o.isDisconnected = false)
    (es : List Entry) : (o.fill es).Coherent := by
  have hd : o.status ≠ .disconnected := by simpa [isDisconnected] using hc
  by_cases hq : o.queue ++ es.take o.room = []
  · have hb := h.bounded
    refine ⟨?_, ?_, ?_, ?_⟩
    · intro _
      exact hq
    · intro hp
      simp only [fill, hq, ite_true] at hp
      exact absurd (List.append_eq_nil_iff.mp hq).1 (h.pending hp)
    · intro hp
      simp only [fill, hq, ite_true] at hp
      exact absurd hp hd
    · simp [fill, hq]
  · have hb := h.bounded
    refine ⟨?_, ?_, ?_, ?_⟩
    · intro hp
      simp [fill, hq] at hp
    · intro _
      exact hq
    · intro hp
      simp [fill, hq] at hp
    · simp only [fill, List.length_append, List.length_take, room]
      omega

@[simp] theorem isDisconnected_fill (o : Observer) (es : List Entry)
    (hc : o.isDisconnected = false) : (o.fill es).isDisconnected = false := by
  unfold fill isDisconnected at *
  dsimp only
  split
  · exact hc
  · rfl

theorem fill_fill (o : Observer) (es fs : List Entry) : (o.fill es).fill fs = o.fill (es ++ fs) := by
  have hroom : (o.fill es).room = o.room - es.length := by
    simp only [fill, room, List.length_append, List.length_take]
    omega
  have hqueue : (o.fill es).queue ++ fs.take (o.fill es).room =
      o.queue ++ (es ++ fs).take o.room := by
    rw [hroom, List.take_append, ← List.append_assoc]
    rfl
  have hdropped : (o.fill es).dropped + (fs.length - (o.fill es).room) =
      o.dropped + ((es ++ fs).length - o.room) := by
    rw [hroom, List.length_append]
    simp only [fill]
    omega
  have hstatus : (if o.queue ++ (es ++ fs).take o.room = [] then (o.fill es).status else .pending) =
      if o.queue ++ (es ++ fs).take o.room = [] then o.status else .pending := by
    by_cases hempty : o.queue ++ (es ++ fs).take o.room = []
    · have hfirst : o.queue ++ es.take o.room = [] := by
        rw [List.take_append, ← List.append_assoc] at hempty
        exact (List.append_eq_nil_iff.mp hempty).1
      simp only [hempty, fill, hfirst, ite_true]
    · simp only [hempty, ite_false]
  calc
    (o.fill es).fill fs = { o with
        queue := (o.fill es).queue ++ fs.take (o.fill es).room
        dropped := (o.fill es).dropped + (fs.length - (o.fill es).room)
        status := if (o.fill es).queue ++ fs.take (o.fill es).room = [] then (o.fill es).status
          else .pending } := rfl
    _ = o.fill (es ++ fs) := by
      rw [hqueue, hdropped, hstatus]
      rfl

/-! ### What is offered -/

/-- Whether a pushed entry is offered to the queue. -/
def accepts (o : Observer) (e : Entry) : Bool := o.admits e && !o.hasCopied e

/-- The entries that a push offers to the queue. -/
def pushed (o : Observer) (e : Entry) : List Entry := if o.accepts e then [e] else []

/-- The entries that a subscription offers to the queue, out of those within reach. -/
def copied (options : ObserveOptions) (stored : Option (List Entry)) : List Entry :=
  if options.buffered then (stored.getD []).filter options.admits else []

/-- A subscription before it has copied anything. -/
def subscribe (o : Observer) (t : EntryType) (options : ObserveOptions) (stored : Option (List Entry)) :
    Observer :=
  { o with
    filter := .one t options
    watermark := ((if options.buffered then stored.getD [] else []).map Entry.sequence).max? }

theorem coherent_subscribe {o : Observer} (h : o.Coherent) (hc : o.isDisconnected = false)
    (t : EntryType) (options : ObserveOptions) (stored : Option (List Entry)) :
    (o.subscribe t options stored).Coherent := by
  refine ⟨h.idle, h.pending, ?_, h.bounded⟩
  intro hd
  simp only [isDisconnected, beq_eq_false_iff_ne] at hc
  exact absurd hd hc

theorem isDisconnected_of_accepts {o : Observer} {e : Entry} (h : o.accepts e = true) :
    o.isDisconnected = false := by
  simp only [accepts, admits, Bool.and_eq_true, Bool.not_eq_true'] at h
  exact h.1.1

/-- A push fills the queue with what it offers. -/
theorem push_eq_fill {o : Observer} (h : o.Coherent) (e : Entry) :
    (o.push e).1 = if o.accepts e then o.fill [e] else o := by
  by_cases ha : o.accepts e = true
  · have hc := isDisconnected_of_accepts ha
    have hp : (o.admits e && !o.hasCopied e) = true := ha
    have he : (o.enqueueAll [e]).1 = (o.enqueue e).1 := enqueueAll_fst o [e]
    rw [if_pos ha, ← awaken_enqueueAll h hc, he]
    cases hr : o.hasRoom with
    | true => simp [push, hp, hr]
    | false =>
      -- A full queue is no reason to wake up: either the observer is pending or its limit is zero.
      have hlen : ¬ o.queue.length < o.limit := by simpa [hasRoom] using hr
      have hn : ¬ (o.status = .idle ∧ o.queue ≠ []) := fun hn => hn.2 (h.idle hn.1)
      simp [push, hp, hr, enqueue, awaken, hn]
  · have hp : (o.admits e && !o.hasCopied e) = false := by simpa [accepts] using ha
    simp only [push, hp, Bool.false_eq_true, ite_false, ha]

/-- A subscription to one type fills the queue with what it copies. -/
theorem observeOne_eq_fill {o : Observer} (h : o.Coherent) (hc : o.isDisconnected = false)
    (t : EntryType) (options : ObserveOptions) (stored : Option (List Entry)) :
    (o.observeOne t options stored).1 =
      (o.subscribe t options stored).fill (copied options stored) := by
  have hs := coherent_subscribe h hc t options stored
  have hcopy : (if options.buffered = true then stored.getD [] else []).filter options.admits =
      copied options stored := by
    unfold copied
    split <;> rfl
  rw [← awaken_enqueueAll hs hc, ← hcopy]
  simp only [observeOne, hc, Bool.false_eq_true, ite_false]
  rfl

/-! ### Subscriptions after an operation -/

@[simp] theorem queue_observeMany (o : Observer) (types : List EntryType) :
    (o.observeMany types).1.queue = o.queue := by
  unfold observeMany
  split <;> rfl

theorem admits_observeMany {o : Observer} (hc : o.isDisconnected = false) (types : List EntryType)
    (e : Entry) : (o.observeMany types).1.filter.admits e = (Filter.many types).admits e := by
  have hall : e.entryType ∈ EntryType.all := by cases e.entryType <;> decide
  simp [observeMany, hc, Filter.admits, hall]

theorem filter_observeOne {o : Observer} (h : o.Coherent) (hc : o.isDisconnected = false)
    (t : EntryType) (options : ObserveOptions) (stored : Option (List Entry)) :
    (o.observeOne t options stored).1.filter = .one t options := by
  rw [observeOne_eq_fill h hc]
  rfl

theorem filter_push {o : Observer} (h : o.Coherent) (e : Entry) : (o.push e).1.filter = o.filter := by
  rw [push_eq_fill h]
  split <;> rfl

theorem isDisconnected_push {o : Observer} (h : o.Coherent) (hc : o.isDisconnected = false) (e : Entry) :
    (o.push e).1.isDisconnected = false := by
  rw [push_eq_fill h]
  split
  · exact isDisconnected_fill o [e] hc
  · exact hc

theorem isDisconnected_observeMany (o : Observer) (types : List EntryType) :
    (o.observeMany types).1.isDisconnected = o.isDisconnected := by
  unfold observeMany
  split <;> rfl

theorem isDisconnected_take (o : Observer) (sorted : Bool) :
    (o.take sorted).1.isDisconnected = o.isDisconnected := by
  unfold isDisconnected take
  dsimp only
  split
  · rename_i hp
    rw [hp]
    rfl
  · rfl

/-! ### Operations keep observers coherent -/

theorem coherent_push {o : Observer} (h : o.Coherent) (e : Entry) : (o.push e).1.Coherent := by
  rw [push_eq_fill h]
  split
  · rename_i ha
    exact coherent_fill h (isDisconnected_of_accepts ha) [e]
  · exact h

theorem coherent_observeOne {o : Observer} (h : o.Coherent) (t : EntryType) (options : ObserveOptions)
    (stored : Option (List Entry)) : (o.observeOne t options stored).1.Coherent := by
  cases hc : o.isDisconnected with
  | true => rw [observeOne_of_isDisconnected hc]; exact h
  | false =>
    rw [observeOne_eq_fill h hc]
    exact coherent_fill (coherent_subscribe h hc t options stored) hc _

theorem coherent_observeMany {o : Observer} (h : o.Coherent) (types : List EntryType) :
    (o.observeMany types).1.Coherent := by
  unfold observeMany
  split
  · exact h
  · rename_i hc
    exact ⟨h.idle, h.pending, fun hd => by simp_all [isDisconnected], h.bounded⟩

theorem coherent_take {o : Observer} (h : o.Coherent) (sorted : Bool) : (o.take sorted).1.Coherent := by
  refine ⟨fun _ => rfl, ?_, ?_, Nat.zero_le _⟩
  · intro hp
    simp only [take] at hp
    split at hp
    · exact nomatch hp
    · exact absurd hp ‹_›
  · intro hd
    have hs : o.status = .disconnected := by
      simp only [take] at hd
      split at hd
      · exact nomatch hd
      · exact hd
    rw [h.disconnected hs]
    rfl

theorem coherent_disconnect {o : Observer} (h : o.Coherent) : o.disconnect.1.Coherent := by
  unfold disconnect
  split
  · exact h
  · exact ⟨nofun, nofun, fun _ => rfl, Nat.zero_le _⟩

/-! ### Waking up -/

/-- Whether a change of state takes an observer from idle to pending. -/
def wakes (before after : Observer) : Bool := before.status == .idle && after.status == .pending

theorem wakes_of_status_eq {before after : Observer} (h : after.status = before.status) :
    wakes before after = false := by
  unfold wakes
  rw [h]
  cases before.status <;> rfl

theorem awaken_wakes (o : Observer) : o.awaken.2 = wakes o o.awaken.1 := by
  unfold awaken
  split
  · rename_i h
    simp [wakes, h.1]
  · exact (wakes_of_status_eq rfl).symm

/-- A push asks for a dispatch exactly when it takes the observer from idle to pending. -/
theorem push_wakes (o : Observer) (e : Entry) : (o.push e).2.wakes = wakes o (o.push e).1 := by
  have hs : (o.enqueue e).1.status = o.status := by rw [enqueue_eq]
  unfold push
  split
  · cases o.hasRoom with
    | true =>
      have hw : wakes o (o.enqueue e).1.awaken.1 = wakes (o.enqueue e).1 (o.enqueue e).1.awaken.1 := by
        rw [wakes, wakes, hs]
      exact (awaken_wakes (o.enqueue e).1).trans hw.symm
    | false => exact (wakes_of_status_eq hs).symm
  · exact (wakes_of_status_eq rfl).symm

/-- A subscription asks for a dispatch exactly when it takes the observer from idle to pending. -/
theorem observeOne_wakes (o : Observer) (t : EntryType) (options : ObserveOptions)
    (stored : Option (List Entry)) :
    (o.observeOne t options stored).2.wakes = wakes o (o.observeOne t options stored).1 := by
  cases hc : o.isDisconnected with
  | true =>
    rw [observeOne_of_isDisconnected hc]
    exact (wakes_of_status_eq rfl).symm
  | false =>
    simp only [observeOne, hc, Bool.false_eq_true, ite_false]
    rw [awaken_wakes, enqueueAll_eq]
    rfl

theorem status_awaken {o : Observer} (h : o.status ≠ .idle) : o.awaken.1.status = o.status := by
  simp [awaken, h]

theorem status_push {o : Observer} (h : o.status ≠ .idle) (e : Entry) :
    (o.push e).1.status = o.status := by
  have hs : (o.enqueue e).1.status = o.status := by rw [enqueue_eq]
  unfold push
  split
  · cases o.hasRoom with
    | true => exact (status_awaken (hs.symm ▸ h)).trans hs
    | false => exact hs
  · rfl

theorem status_observeOne {o : Observer} (h : o.status ≠ .idle) (t : EntryType)
    (options : ObserveOptions) (stored : Option (List Entry)) :
    (o.observeOne t options stored).1.status = o.status := by
  cases hc : o.isDisconnected with
  | true => rw [observeOne_of_isDisconnected hc]
  | false =>
    simp only [observeOne, hc, Bool.false_eq_true, ite_false]
    rw [status_awaken] <;> rw [enqueueAll_eq]
    exact h

theorem status_observeMany (o : Observer) (types : List EntryType) :
    (o.observeMany types).1.status = o.status := by
  unfold observeMany
  split <;> rfl

end PerfTimeline.Observer
