import PerfTimeline.Proofs.Observer.Reference
import PerfTimeline.Proofs.Timeline.Pointwise

/-!
# Observers refine plain queues

What an observer delivers over a whole run is what a plain queue delivers that is fed from the run:
with the stored entries when a buffered subscription begins, and with each reported entry that passes the
subscription of the time. `feed` computes this from the operations alone. The proof tracks one observer
from its creation on: its queue is the queue of the reference, its filter the subscription of the time,
and once subscribed it stays registered.
-/

namespace PerfTimeline

namespace Operation

/-- The subscription of an observer after an operation. -/
def resubscribe (o : ObserverId) (f : Filter) : Operation → Filter
  | observeOne p t options => if p = o then .one t options else f
  | observeMany p types => if p = o then .many types else f
  | _ => f

theorem resubscribe_of_not_subscribes {op : Operation} {o : ObserverId} (f : Filter)
    (h : op.subscribes o = false) : op.resubscribe o f = f := by
  cases op with
  | observeOne p t options => exact if_neg (by simpa [subscribes] using h)
  | observeMany p types => exact if_neg (by simpa [subscribes] using h)
  | _ => rfl

/-- What a report feeds an observer with, given the recorder before it. -/
def reportFeed (r : Recorder) (f : Filter) (e : Entry) : List Feed :=
  let stored := e.withSequence (r.sequence + 1)
  if f.admits stored then [.offer stored] else []

/-- What an operation feeds an observer with, given the recorder and the subscription before it. -/
def feed (o : ObserverId) (r : Recorder) (f : Filter) : Operation → List Feed
  | report e => reportFeed r f e
  | reportEvent name start duration timing => reportFeed r f (.event name start duration timing)
  | observeOne p t options =>
    if p = o ∧ options.buffered then ((r.select t none).filter options.admits).map .offer else []
  | take p sorted => if p = o then [.drain sorted] else []
  | _ => []

end Operation

/-- What a run feeds an observer with. -/
def feed (o : ObserverId) (r : Recorder) (f : Filter) : List Operation → List Feed
  | [] => []
  | op :: ops => op.feed o r f ++ feed o (op.onRecorder r) (op.resubscribe o f) ops

namespace Timeline

variable {ε : Type} {hooks : Hooks ε}

/-! ### Tracking one observer -/

/-- The observer is subscribed as `f` says, has the queue `q`, and hears of every report if subscribed. -/
structure Tracked (tl : Timeline ε) (o : ObserverId) (f : Filter) (q : BoundedQueue) : Prop where
  sound : tl.Sound
  isOpen : tl.isOpen = true
  state : ∃ s, tl.observer? o = some s ∧ s.asQueue = q ∧ ∀ e, s.filter.admits e = f.admits e
  registered : f ≠ .nothing → o ∈ tl.registry

theorem Tracked.lt_length {tl : Timeline ε} {o : ObserverId} {f : Filter} {q : BoundedQueue}
    (h : tl.Tracked o f q) : o < tl.slots.length := by
  obtain ⟨s, hs, -⟩ := h.state
  exact lt_length_of_observer? hs

theorem Tracked.offered {tl : Timeline ε} {o : ObserverId} {f : Filter} {q : BoundedQueue}
    (h : tl.Tracked o f q) {s : Observer} (hs : tl.observer? o = some s) (hq : s.asQueue = q)
    (hf : ∀ e, s.filter.admits e = f.admits e) (hc : s.isDisconnected = false)
    (hl : tl.isLive o = true) (e : Entry) :
    (if tl.listens o then (s.push (e.withSequence (tl.recorder.sequence + 1))).1 else s).asQueue =
      q.after (Operation.reportFeed tl.recorder f e) := by
  -- The new entry is numbered above the watermark, so only the filter decides.
  have hnew : s.hasCopied (e.withSequence (tl.recorder.sequence + 1)) = false :=
    (h.sound.marked o s hs).hasCopied_eq_false (Nat.lt_succ_self _)
  have haccepts : s.accepts (e.withSequence (tl.recorder.sequence + 1)) =
      f.admits (e.withSequence (tl.recorder.sequence + 1)) := by
    simp [Observer.accepts, Observer.admits, hc, hnew, hf]
  have hpush := Observer.asQueue_push (h.sound.coherent o s hs)
    (e.withSequence (tl.recorder.sequence + 1))
  simp only [Operation.reportFeed]
  cases ha : f.admits (e.withSequence (tl.recorder.sequence + 1)) with
  | true =>
    have hr : o ∈ tl.registry := h.registered fun hn => by simp [hn, Filter.admits] at ha
    have hlistens : tl.listens o = true := by simp [listens, hl, hr]
    rw [if_pos hlistens, hpush, Observer.pushed, haccepts, ha, hq]
    rfl
  | false =>
    rw [Observer.pushed, haccepts, ha] at hpush
    split
    · exact hpush.trans hq
    · exact hq

theorem Tracked.asQueue_effectOn {tl : Timeline ε} {o : ObserverId} {f : Filter} {q : BoundedQueue}
    (h : tl.Tracked o f q) {s : Observer} (hs : tl.observer? o = some s) (hq : s.asQueue = q)
    (hf : ∀ e, s.filter.admits e = f.admits e) (hc : s.isDisconnected = false)
    (hl : tl.isLive o = true) {op : Operation} (hdirect : op.isDirect = false)
    (hdis : op.disconnects o = false) :
    (tl.effectOn o s op).asQueue = q.after (op.feed o tl.recorder f) := by
  have hco := h.sound.coherent o s hs
  cases op with
  | report e => exact h.offered hs hq hf hc hl e
  | reportEvent name start duration timing => exact h.offered hs hq hf hc hl _
  | observeOne p t options =>
    by_cases hp : p = o
    · simp only [effectOn, hp, hl, and_self, ite_true, Operation.feed, true_and]
      rw [Observer.asQueue_observeOne hco hc, hq]
      unfold Observer.copied reachable
      rw [if_pos h.isOpen]
      cases options.buffered with
      | true => exact (BoundedQueue.after_offers q _).symm
      | false => rfl
    · simp only [effectOn, hp, false_and, ite_false, Operation.feed]
      exact hq
  | observeMany p types =>
    simp only [effectOn]
    split
    · exact (Observer.asQueue_observeMany s types).trans hq
    · exact hq
  | take p sorted =>
    by_cases hp : p = o
    · simp only [effectOn, hp, hl, and_self, ite_true, Operation.feed]
      rw [Observer.asQueue_take, hq]
      rfl
    · simp only [effectOn, hp, false_and, ite_false, Operation.feed]
      exact hq
  | disconnect p =>
    have hp : p ≠ o := by simpa [Operation.disconnects] using hdis
    simp only [effectOn, hp, false_and, ite_false]
    exact hq
  | push p e => cases hdirect
  | fanOut e => cases hdirect
  | _ => exact hq

theorem Tracked.admits_effectOn {tl : Timeline ε} {o : ObserverId} {f : Filter} {q : BoundedQueue}
    (h : tl.Tracked o f q) {s : Observer} (hs : tl.observer? o = some s)
    (hf : ∀ e, s.filter.admits e = f.admits e) (hc : s.isDisconnected = false)
    (hl : tl.isLive o = true) {op : Operation} (hdirect : op.isDirect = false)
    (hdis : op.disconnects o = false) (e : Entry) :
    (tl.effectOn o s op).filter.admits e = (op.resubscribe o f).admits e := by
  have hco := h.sound.coherent o s hs
  have pushed (x : Entry) :
      (if tl.listens o then (s.push x).1 else s).filter.admits e = f.admits e := by
    split
    · rw [Observer.filter_push hco]
      exact hf e
    · exact hf e
  cases op with
  | report x => exact pushed _
  | reportEvent name start duration timing => exact pushed _
  | observeOne p t options =>
    by_cases hp : p = o
    · simp only [effectOn, hp, hl, and_self, ite_true, Operation.resubscribe]
      rw [Observer.filter_observeOne hco hc]
    · simp only [effectOn, hp, false_and, ite_false, Operation.resubscribe]
      exact hf e
  | observeMany p types =>
    by_cases hp : p = o
    · simp only [effectOn, hp, hl, and_self, ite_true, Operation.resubscribe]
      exact Observer.admits_observeMany hc types e
    · simp only [effectOn, hp, false_and, ite_false, Operation.resubscribe]
      exact hf e
  | take p sorted =>
    simp only [effectOn]
    split <;> exact hf e
  | disconnect p =>
    have hp : p ≠ o := by simpa [Operation.disconnects] using hdis
    simp only [effectOn, hp, false_and, ite_false]
    exact hf e
  | push p x => cases hdirect
  | fanOut x => cases hdirect
  | _ => exact hf e

/-- One operation feeds the tracked queue with what `Operation.feed` says. -/
theorem Tracked.effect {tl : Timeline ε} {o : ObserverId} {f : Filter} {q : BoundedQueue}
    (h : tl.Tracked o f q) {op : Operation} (hdirect : op.isDirect = false)
    (hopen : op.keepsOpen = true) (hlive : (tl.effect op).isLive o = true)
    (hconn : (tl.effect op).isConnected o = true) :
    (tl.effect op).Tracked o (op.resubscribe o f) (q.after (op.feed o tl.recorder f)) := by
  have ho := h.lt_length
  have hl := isLive_of_isLive_effect ho hlive
  have hdis := disconnects_eq_false ho hl hconn
  obtain ⟨s, hs, hq, hf⟩ := h.state
  have hc : s.isDisconnected = false := by
    have hc := isConnected_of_isConnected_effect ho hconn
    simpa [isConnected, hs] using hc
  have hobs : (tl.effect op).observer? o = some (tl.effectOn o s op) := by
    rw [observer?_effect tl ho, hs]
    rfl
  refine ⟨h.sound.effect op, (isOpen_effect tl hopen).trans h.isOpen, ⟨_, hobs, ?_, ?_⟩, ?_⟩
  · exact h.asQueue_effectOn hs hq hf hc hl hdirect hdis
  · exact h.admits_effectOn hs hf hc hl hdirect hdis
  · intro hn
    rw [mem_registry_effect ho hdirect h.isOpen hlive hconn]
    cases hsub : op.subscribes o with
    | true => exact .inr rfl
    | false =>
      rw [Operation.resubscribe_of_not_subscribes f hsub] at hn
      exact .inl (h.registered hn)

theorem Tracked.perform (hp : hooks.Passive) {tl : Timeline ε} {o : ObserverId} {f : Filter}
    {q : BoundedQueue} (h : tl.Tracked o f q) {op : Operation} (hdirect : op.isDirect = false)
    (hopen : op.keepsOpen = true) (hlive : (tl.perform hooks op).1.isLive o = true)
    (hconn : (tl.perform hooks op).1.isConnected o = true) :
    (tl.perform hooks op).1.Tracked o (op.resubscribe o f) (q.after (op.feed o tl.recorder f)) := by
  obtain ⟨host, heq⟩ := perform_eq hp h.sound.nodup op
  rw [heq] at hlive hconn ⊢
  have hnext := h.effect hdirect hopen hlive hconn
  exact ⟨hnext.sound.with_host host, hnext.isOpen, hnext.state, hnext.registered⟩

theorem Tracked.drained {tl : Timeline ε} {o : ObserverId} {f : Filter} {q : BoundedQueue}
    (h : tl.Tracked o f q) (hl : tl.isLive o = true) (op : Operation) :
    tl.drained hooks o op = q.outputs (op.feed o tl.recorder f) := by
  have reported (e : Entry) : [] = q.outputs (Operation.reportFeed tl.recorder f e) := by
    unfold Operation.reportFeed
    dsimp only
    split <;> rfl
  cases op with
  | report e => exact reported e
  | reportEvent name start duration timing => exact reported _
  | observeOne p t options =>
    simp only [Operation.feed]
    split
    · exact (BoundedQueue.outputs_offers q _).symm
    · rfl
  | take p sorted =>
    by_cases hp : p = o
    · obtain ⟨s, hs, hq, -⟩ := h.state
      subst hp
      subst hq
      simp only [Timeline.drained, Operation.drains, Operation.feed, beq_self_eq_true, ite_true]
      simp only [Timeline.perform, onLive, hl, ite_true, Timeline.take, hs]
      rfl
    · simp [Timeline.drained, Operation.drains, Operation.feed, hp, BoundedQueue.outputs]
  | _ => rfl

/-- A whole run feeds and drains the tracked queue. -/
theorem Tracked.run (hp : hooks.Passive) {tl : Timeline ε} {o : ObserverId} {f : Filter}
    {q : BoundedQueue} (h : tl.Tracked o f q) {ops : List Operation}
    (hdirect : ∀ op ∈ ops, op.isDirect = false) (hopen : ∀ op ∈ ops, op.keepsOpen = true)
    (hlive : (tl.run hooks ops).isLive o = true) (hconn : (tl.run hooks ops).isConnected o = true) :
    tl.drains hooks o ops = q.outputs (PerfTimeline.feed o tl.recorder f ops) ∧
      ∃ g, (tl.run hooks ops).Tracked o g (q.after (PerfTimeline.feed o tl.recorder f ops)) := by
  induction ops generalizing tl f q with
  | nil => exact ⟨rfl, f, h⟩
  | cons op ops ih =>
    have hsound := h.sound.perform hp op
    have ho := Nat.lt_of_lt_of_le h.lt_length (length_slots_perform hp h.sound op)
    have hlive' := isLive_of_isLive_run hp hsound ho hlive
    have hnext := h.perform hp (hdirect op List.mem_cons_self) (hopen op List.mem_cons_self) hlive'
      (isConnected_of_isConnected_run hp hsound ho hconn)
    have hl := isLive_of_isLive_perform hp h.sound h.lt_length hlive'
    obtain ⟨houtputs, g, hend⟩ := ih hnext (fun op' hm => hdirect op' (List.mem_cons_of_mem _ hm))
      (fun op' hm => hopen op' (List.mem_cons_of_mem _ hm)) hlive hconn
    have hrec : (tl.perform hooks op).1.recorder = op.onRecorder tl.recorder := by
      obtain ⟨host, heq⟩ := perform_eq hp h.sound.nodup op
      rw [heq]
      exact recorder_effect tl op
    rw [hrec] at houtputs hend
    refine ⟨?_, g, ?_⟩
    · rw [Timeline.drains, houtputs, h.drained hl, PerfTimeline.feed, BoundedQueue.outputs_append]
    · rw [PerfTimeline.feed, BoundedQueue.after_append]
      exact hend

theorem tracked_create {tl : Timeline ε} (h : tl.Sound) (ho : tl.isOpen = true) (limit : Nat)
    (route : Route) : (tl.create limit route).1.Tracked tl.slots.length .nothing { limit } :=
  ⟨h.create limit route, ho, ⟨{ limit }, observer?_create tl limit route, rfl, fun _ => rfl⟩,
    fun hn => absurd rfl hn⟩

/-- Whatever a program does before and after it makes an observer, as long as it reports and subscribes and
does not offer entries directly: while the observer is alive and connected, its drains gave out what the
reference queue gives out, and it holds and has dropped what the reference queue holds and has refused. -/
theorem observer_refines_queue (hp : hooks.Passive) (capacities : Capacities) (host : ε) (limit : Nat)
    (route : Route) (before later : List Operation)
    (hdirect : ∀ op ∈ before ++ later, op.isDirect = false)
    (hopen : ∀ op ∈ before ++ later, op.keepsOpen = true) :
    let start := (new capacities host).run hooks before
    let o := start.slots.length
    let made := (start.perform hooks (.create limit route)).1
    let reference : BoundedQueue := { limit }
    let fed := feed o made.recorder .nothing later
    (made.run hooks later).isLive o = true → (made.run hooks later).isConnected o = true →
      made.drains hooks o later = reference.outputs fed ∧
        ((made.run hooks later).observer? o).map Observer.asQueue = some (reference.after fed) := by
  intro start o made reference fed hlive hconn
  have hsound : start.Sound := (sound_new capacities host).run hp before
  have hstart : start.isOpen = true := by
    have hb : ∀ op ∈ before, op.keepsOpen = true := fun op hm => hopen op (List.mem_append_left _ hm)
    exact isOpen_run hp (sound_new capacities host) hb
  have hmade : made.Tracked o .nothing reference := tracked_create hsound hstart limit route
  obtain ⟨houtputs, g, hend⟩ := hmade.run hp
    (fun op hm => hdirect op (List.mem_append_right _ hm))
    (fun op hm => hopen op (List.mem_append_right _ hm)) hlive hconn
  obtain ⟨s, hs, hq, -⟩ := hend.state
  refine ⟨houtputs, ?_⟩
  rw [hs, Option.map_some, hq]

/-- Measures of different lengths, three of them before a buffered subscription with a threshold and two after it,
with room for two. The threshold itself passes. -/
theorem observer_refines_queue_threshold :
    let measures : List Operation := [("a", 3.0), ("b", 1.5), ("c", 2.0), ("d", 1.0), ("e", 2.5)].map
      fun (name, duration) => .report (.measure name .zero ⟨duration⟩)
    let before := measures.take 3
    let later := [.observeOne 0 .measure ⟨true, some ⟨2.0⟩⟩] ++ measures.drop 3 ++ [.take 0 false]
    let made := (((new .standard ()).run .quiet before).perform .quiet (.create 2 .direct)).1
    (made.run .quiet later).isLive 0 = true ∧ (made.run .quiet later).isConnected 0 = true ∧
      (made.drains .quiet 0 later).map (List.map Entry.name) = [["a", "c"]] ∧
      ((made.run .quiet later).observer? 0).map Observer.asQueue = some ⟨2, [], 1⟩ := by
  intro measures before later made
  have hlive : (made.run .quiet later).isLive 0 = true := by decide
  have hconn : (made.run .quiet later).isConnected 0 = true := by decide
  obtain ⟨hdrains, hqueue⟩ := observer_refines_queue Hooks.passive_quiet .standard () 2 .direct before
    later (by decide) (by decide) hlive hconn
  refine ⟨hlive, hconn, ?_, ?_⟩
  · exact (congrArg _ hdrains).trans (by decide +kernel)
  · exact hqueue.trans (by decide +kernel)

end Timeline

end PerfTimeline
