import PerfTimeline.Proofs.Observer.Filling

/-!
# The queue of an observer as a plain queue

`BoundedQueue` is the reference: a list of bounded length that refuses what does not fit and counts it.
`Observer.asQueue` forgets everything else about an observer. Each operation of an observer comes down to
offers to that queue, or to emptying it.
-/

namespace PerfTimeline

/-- A queue that refuses new records while it is full. -/
structure BoundedQueue where
  limit : Nat
  records : List Entry := []
  /-- How many records were refused. -/
  refused : Nat := 0
deriving DecidableEq

/-- What happens to a queue from outside. -/
inductive Feed where
  | offer (e : Entry)
  | drain (sorted : Bool)
deriving DecidableEq

namespace BoundedQueue

def offer (q : BoundedQueue) (e : Entry) : BoundedQueue :=
  if q.records.length < q.limit then { q with records := q.records ++ [e] }
  else { q with refused := q.refused + 1 }

def drain (q : BoundedQueue) : BoundedQueue := { q with records := [] }

def next (q : BoundedQueue) : Feed → BoundedQueue
  | .offer e => q.offer e
  | .drain _ => q.drain

def after (q : BoundedQueue) (feed : List Feed) : BoundedQueue := feed.foldl next q

/-- What each drain gives out, sorted on request. -/
def outputs (q : BoundedQueue) : List Feed → List (List Entry)
  | [] => []
  | .offer e :: feed => (q.offer e).outputs feed
  | .drain sorted :: feed =>
    (if sorted then Entry.sort q.records else q.records) :: q.drain.outputs feed

theorem after_append (q : BoundedQueue) (a b : List Feed) : q.after (a ++ b) = (q.after a).after b :=
  List.foldl_append

theorem outputs_append (q : BoundedQueue) (a b : List Feed) :
    q.outputs (a ++ b) = q.outputs a ++ (q.after a).outputs b := by
  induction a generalizing q with
  | nil => rfl
  | cons f a ih =>
    cases f with
    | offer e => exact ih (q.offer e)
    | drain sorted => exact congrArg _ (ih q.drain)

theorem after_offers (q : BoundedQueue) (es : List Entry) :
    q.after (es.map .offer) = es.foldl offer q := List.foldl_map

theorem outputs_offers (q : BoundedQueue) (es : List Entry) : q.outputs (es.map .offer) = [] := by
  induction es generalizing q with
  | nil => rfl
  | cons e es ih => exact ih (q.offer e)

end BoundedQueue

/-! ### Queues that refuse nothing -/

def Feed.offered? : Feed → Option Entry
  | offer e => some e
  | drain _ => none

/-- Whether a drain sorts. -/
def Feed.sorts? : Feed → Option Bool
  | offer _ => none
  | drain sorted => some sorted

namespace BoundedQueue

/-- Pieces of a list as drains give them out, each sorted on request. -/
def dealt (sortings : List Bool) (pieces : List (List Entry)) : List (List Entry) :=
  List.zipWith (fun sorted piece => if sorted then Entry.sort piece else piece) sortings pieces

theorem flatten_dealt_perm {flags : List Bool} {pieces : List (List Entry)}
    (h : pieces.length = flags.length) : (dealt flags pieces).flatten.Perm pieces.flatten := by
  induction pieces generalizing flags with
  | nil => cases flags <;> exact .refl _
  | cons piece pieces ih =>
    cases flags with
    | nil => cases h
    | cons sorted flags =>
      refine List.Perm.append ?_ (ih (Nat.succ.inj h))
      cases sorted with
      | true => exact Entry.sort_perm piece
      | false => exact .refl _

theorem dealt_of_not_mem {flags : List Bool} {pieces : List (List Entry)} (h : pieces.length = flags.length)
    (hsorted : true ∉ flags) : dealt flags pieces = pieces := by
  induction pieces generalizing flags with
  | nil => cases flags <;> rfl
  | cons piece pieces ih =>
    cases flags with
    | nil => cases h
    | cons sorted flags =>
      obtain ⟨hfirst, hrest⟩ := not_or.mp (mt List.mem_cons.mpr hsorted)
      cases sorted with
      | true => exact absurd rfl hfirst
      | false => exact congrArg (piece :: ·) (ih (Nat.succ.inj h) hrest)

theorem refused_le_offer (q : BoundedQueue) (e : Entry) : q.refused ≤ (q.offer e).refused := by
  unfold offer
  split
  · exact Nat.le_refl _
  · exact Nat.le_succ _

theorem refused_le_after (q : BoundedQueue) (feed : List Feed) : q.refused ≤ (q.after feed).refused := by
  induction feed generalizing q with
  | nil => exact Nat.le_refl _
  | cons f feed ih =>
    refine Nat.le_trans ?_ (ih (q.next f))
    cases f with
    | offer e => exact q.refused_le_offer e
    | drain sorted => exact Nat.le_refl _

/-- A queue that refuses nothing holds what is offered behind what it held. -/
theorem offer_of_refused {q : BoundedQueue} {e : Entry} (h : (q.offer e).refused ≤ q.refused) :
    q.offer e = { q with records := q.records ++ [e] } := by
  unfold offer at h ⊢
  split
  · rfl
  · rename_i hfull
    rw [if_neg hfull] at h
    exact absurd h (Nat.not_succ_le_self _)

/-- As long as it refuses nothing a queue deals out what it is offered, in that order and in as many pieces as
there are drains. -/
theorem deals (q : BoundedQueue) (feed : List Feed) (h : (q.after feed).refused ≤ q.refused) :
    ∃ pieces : List (List Entry), pieces.length = (feed.filterMap Feed.sorts?).length ∧
      q.outputs feed = dealt (feed.filterMap Feed.sorts?) pieces ∧
      pieces.flatten ++ (q.after feed).records = q.records ++ feed.filterMap Feed.offered? := by
  induction feed generalizing q with
  | nil => exact ⟨[], rfl, rfl, (List.append_nil _).symm⟩
  | cons f feed ih =>
    cases f with
    | offer e =>
      have hoffer := offer_of_refused (Nat.le_trans (refused_le_after (q.offer e) feed) h)
      have hrefused : ((q.offer e).after feed).refused ≤ (q.offer e).refused :=
        Nat.le_trans h (q.refused_le_offer e)
      obtain ⟨pieces, hlength, houtputs, hpieces⟩ := ih (q.offer e) hrefused
      refine ⟨pieces, hlength, houtputs, hpieces.trans ?_⟩
      rw [hoffer]
      exact List.append_assoc ..
    | drain sorted =>
      obtain ⟨pieces, hlength, houtputs, hpieces⟩ := ih q.drain h
      refine ⟨q.records :: pieces, congrArg (· + 1) hlength, congrArg _ houtputs, ?_⟩
      rw [List.flatten_cons, List.append_assoc]
      exact congrArg (q.records ++ ·) hpieces

end BoundedQueue

namespace Observer

/-- The queue of an observer. -/
def asQueue (o : Observer) : BoundedQueue := ⟨o.limit, o.queue, o.dropped⟩

theorem asQueue_enqueue (o : Observer) (e : Entry) : (o.enqueue e).1.asQueue = o.asQueue.offer e := by
  by_cases h : o.queue.length < o.limit
  · simp [enqueue, hasRoom, asQueue, BoundedQueue.offer, h]
  · simp [enqueue, hasRoom, asQueue, BoundedQueue.offer, h]

theorem asQueue_enqueueAll (o : Observer) (es : List Entry) :
    (o.enqueueAll es).1.asQueue = es.foldl BoundedQueue.offer o.asQueue := by
  rw [enqueueAll_fst]
  induction es generalizing o with
  | nil => rfl
  | cons e es ih => rw [List.foldl_cons, ih, asQueue_enqueue, List.foldl_cons]

theorem asQueue_fill (o : Observer) (es : List Entry) :
    (o.fill es).asQueue = es.foldl BoundedQueue.offer o.asQueue := by
  rw [← asQueue_enqueueAll, enqueueAll_eq]
  rfl

theorem asQueue_push {o : Observer} (h : o.Coherent) (e : Entry) :
    (o.push e).1.asQueue = (o.pushed e).foldl BoundedQueue.offer o.asQueue := by
  rw [push_eq_fill h, pushed]
  split
  · exact asQueue_fill o [e]
  · rfl

theorem asQueue_observeOne {o : Observer} (h : o.Coherent) (hc : o.isDisconnected = false)
    (t : EntryType) (options : ObserveOptions) (stored : Option (List Entry)) :
    (o.observeOne t options stored).1.asQueue =
      (copied options stored).foldl BoundedQueue.offer o.asQueue := by
  rw [observeOne_eq_fill h hc, asQueue_fill]
  rfl

theorem asQueue_observeMany (o : Observer) (types : List EntryType) :
    (o.observeMany types).1.asQueue = o.asQueue := by
  unfold observeMany
  split <;> rfl

theorem asQueue_take (o : Observer) (sorted : Bool) : (o.take sorted).1.asQueue = o.asQueue.drain := rfl

end Observer

end PerfTimeline
