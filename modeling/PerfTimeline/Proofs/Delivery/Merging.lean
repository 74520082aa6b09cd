import Mathlib.Data.List.Nodup
import Mathlib.Data.List.Perm.Basic
import PerfTimeline.Module.Basic
import PerfTimeline.Proofs.Delivery.Refinement
import PerfTimeline.Proofs.Timeline.Calls
import PerfTimeline.Proofs.Timeline.Pending

/-!
# A subscription to many types merges subscriptions to one

An observer of several types receives what observers of the single types receive, merged in the order of
reports (`many_merges_singles`), as long as none of them drops anything. What a run stores is one ascending
list (`storedBy`), and each observer receives the part of it that passes its subscription; the parts of the
single types are disjoint and make up the part of them all.
-/

namespace PerfTimeline

/-! ### Operations that leave an observer alone -/

namespace Operation

/-- Whether an operation leaves the subscription and the life of `o` alone, keeps the recorder in reach and is
not direct. -/
def spares (o : ObserverId) : Operation → Bool
  | push .. | register _ | unregister _ | fanOut _ | close => false
  | observeOne p _ _ | observeMany p _ | disconnect p | drop p => p != o
  | _ => true

/-- Whether an operation subscribes to what is yet to be reported, and to nothing that is stored already. -/
def subscribesAnew : Operation → Bool
  | observeOne _ _ options => !options.buffered
  | observeMany .. => true
  | _ => false

/-- Whether a drain of `o` sorts, if the operation is one. -/
def sorts? (o : ObserverId) : Operation → Option Bool
  | take p sorted => if p = o then some sorted else none
  | _ => none

/-- The entry that an operation stores. -/
def stored? (r : Recorder) (op : Operation) : Option Entry := op.reported?.map fun e => (r.append e).2.1

variable {o : ObserverId} {op : Operation}

theorem regular_of_spares (h : op.spares o = true) : op.isDirect = false ∧ op.keepsOpen = true := by
  cases op <;> first | exact ⟨rfl, rfl⟩ | cases h

theorem regular_of_subscribesAnew (h : op.subscribesAnew = true) :
    op.isDirect = false ∧ op.keepsOpen = true := by
  cases op <;> first | exact ⟨rfl, rfl⟩ | cases h

theorem subscribes_of_spares (h : op.spares o = true) : op.subscribes o = false := by
  cases op <;> first | rfl | simpa [spares, subscribes] using h

/-- Who is spared does not die or get disconnected. -/
theorem ne_of_spares (h : op.spares o = true) : op ≠ .drop o ∧ op ≠ .disconnect o := by
  constructor <;> rintro rfl <;> simp [spares] at h

theorem ne_of_subscribesAnew (h : op.subscribesAnew = true) : op ≠ .drop o ∧ op ≠ .disconnect o := by
  constructor <;> rintro rfl <;> cases h

end Operation

/-! ### What a run stores -/

/-- The entries that operations store, one after another. -/
def Recorder.storedBy (r : Recorder) : List Operation → List Entry
  | [] => []
  | op :: ops => (op.stored? r).toList ++ (op.onRecorder r).storedBy ops

namespace Recorder

theorem lt_of_mem_storedBy {r : Recorder} {ops : List Operation} :
    ∀ e ∈ r.storedBy ops, r.sequence < e.sequence := by
  induction ops generalizing r with
  | nil => exact fun e he => absurd he List.not_mem_nil
  | cons op ops ih =>
    intro e he
    cases hop : op.reported? with
    | none =>
      rw [storedBy, Operation.stored?, hop] at he
      exact Timeline.sequence_onRecorder hop r ▸ ih e he
    | some x =>
      rw [storedBy, Operation.stored?, hop] at he
      rcases List.mem_cons.mp he with rfl | he
      · exact Nat.lt_succ_self _
      · have hlater := ih e he
        obtain ⟨counts, hnext⟩ := Timeline.onRecorder_of_reported hop r
        rw [hnext, sequence_append] at hlater
        exact Nat.lt_of_succ_lt hlater

/-- What a run stores it numbers in ascending order. -/
theorem ascending_storedBy (r : Recorder) (ops : List Operation) :
    (r.storedBy ops).Pairwise fun x y => x.sequence < y.sequence := by
  induction ops generalizing r with
  | nil => exact .nil
  | cons op ops ih =>
    rw [storedBy, Operation.stored?]
    cases hop : op.reported? with
    | none => exact ih _
    | some x =>
      refine List.pairwise_cons.mpr ⟨fun e he => ?_, ih _⟩
      obtain ⟨counts, hnext⟩ := Timeline.onRecorder_of_reported hop r
      have hlater := lt_of_mem_storedBy e he
      rwa [hnext] at hlater

end Recorder

/-- The entries of several types are those of each of them. -/
theorem perm_flatMap_filter {ts : List EntryType} (hts : ts.Nodup) (es : List Entry) :
    (es.filter fun e => ts.contains e.entryType).Perm
      (ts.flatMap fun t => es.filter fun e => e.entryType == t) := by
  induction ts with
  | nil => simp
  | cons t ts ih =>
    obtain ⟨ht, hts⟩ := List.nodup_cons.mp hts
    let all := es.filter fun e => (t :: ts).contains e.entryType
    have hof : (all.filter fun e => e.entryType == t) = es.filter fun e => e.entryType == t := by
      rw [List.filter_filter]
      refine List.filter_congr fun e _ => ?_
      by_cases he : e.entryType = t <;> simp [he]
    have hothers : (all.filter fun e => !(e.entryType == t)) = es.filter fun e => ts.contains e.entryType := by
      rw [List.filter_filter]
      refine List.filter_congr fun e _ => ?_
      by_cases he : e.entryType = t
      · simp [he, ht]
      · simp [he]
    have hsplit := List.filter_append_perm (fun e => e.entryType == t) all
    rw [hof, hothers] at hsplit
    rw [List.flatMap_cons]
    exact hsplit.symm.trans ((ih hts).append_left _)

/-! ### What a run feeds an observer with -/

/-- Whether the drains of `o` sort, one after another. -/
def sortings (o : ObserverId) (ops : List Operation) : List Bool := ops.filterMap (·.sorts? o)

/-- The subscription of `o` after some operations. -/
def resubscribed (o : ObserverId) (f : Filter) (ops : List Operation) : Filter :=
  ops.foldl (fun f op => op.resubscribe o f) f

section Feed

variable {o : ObserverId} {ops : List Operation}

theorem Operation.offered_feed {op : Operation} (h : op.subscribes o = false) (r : Recorder) (f : Filter) :
    (op.feed o r f).filterMap Feed.offered? = (op.stored? r).toList.filter (f.admits ·) := by
  have reported (e : Entry) : (reportFeed r f e).filterMap Feed.offered? =
      [e.withSequence (r.sequence + 1)].filter (f.admits ·) := by
    unfold reportFeed
    cases h : f.admits (e.withSequence (r.sequence + 1)) <;> simp [h, Feed.offered?]
  cases op with
  | report e => exact reported e
  | reportEvent name start duration timing => exact reported _
  | observeOne p t options =>
    have hp : p ≠ o := by simpa [subscribes] using h
    simp [feed, hp, stored?, reported?]
  | take p sorted => by_cases hp : p = o <;> simp [feed, hp, stored?, reported?, Feed.offered?]
  | _ => rfl

theorem Operation.sorts_feed {op : Operation} (h : op.subscribes o = false) (r : Recorder) (f : Filter) :
    (op.feed o r f).filterMap Feed.sorts? = (op.sorts? o).toList := by
  have reported (e : Entry) : (reportFeed r f e).filterMap Feed.sorts? = [] := by
    unfold reportFeed
    dsimp only
    split <;> rfl
  cases op with
  | report e => exact reported e
  | reportEvent name start duration timing => exact reported _
  | observeOne p t options =>
    have hp : p ≠ o := by simpa [subscribes] using h
    simp [feed, hp, sorts?]
  | take p sorted => by_cases hp : p = o <;> simp [feed, hp, sorts?, Feed.sorts?]
  | _ => rfl

/-- As long as it keeps its subscription an observer is offered what is stored and passes. -/
theorem offered_feed (hops : ∀ op ∈ ops, op.subscribes o = false) (r : Recorder) (f : Filter) :
    (feed o r f ops).filterMap Feed.offered? = (r.storedBy ops).filter (f.admits ·) := by
  induction ops generalizing r with
  | nil => rfl
  | cons op ops ih =>
    have hop := hops op List.mem_cons_self
    rw [feed, Operation.resubscribe_of_not_subscribes f hop, Recorder.storedBy, List.filterMap_append,
      List.filter_append, Operation.offered_feed hop, ih fun op' hm => hops op' (List.mem_cons_of_mem _ hm)]

theorem sorts_feed (hops : ∀ op ∈ ops, op.subscribes o = false) (r : Recorder) (f : Filter) :
    (feed o r f ops).filterMap Feed.sorts? = sortings o ops := by
  induction ops generalizing r with
  | nil => rfl
  | cons op ops ih =>
    have hop := hops op List.mem_cons_self
    rw [feed, Operation.resubscribe_of_not_subscribes f hop, List.filterMap_append, Operation.sorts_feed hop,
      ih fun op' hm => hops op' (List.mem_cons_of_mem _ hm), sortings, sortings, List.filterMap_cons]
    cases op.sorts? o <;> rfl

/-- Subscriptions that begin with nothing only change what comes after them. -/
theorem feed_subscriptions {subscriptions : List Operation}
    (h : ∀ op ∈ subscriptions, op.subscribesAnew = true) (r : Recorder) (f : Filter) (ops : List Operation) :
    feed o r f (subscriptions ++ ops) =
      feed o r (resubscribed o f subscriptions) ops := by
  induction subscriptions generalizing f with
  | nil => rfl
  | cons op subscriptions ih =>
    have hop := h op List.mem_cons_self
    have hfeed : op.feed o r f = [] := by
      cases op with
      | observeOne p t options =>
        have hbuffered : options.buffered = false := by simpa [Operation.subscribesAnew] using hop
        simp [Operation.feed, hbuffered]
      | observeMany p types => rfl
      | _ => cases hop
    have hrecorder : op.onRecorder r = r := by
      cases op <;> first | rfl | cases hop
    rw [List.cons_append, feed, hfeed, hrecorder, ih fun op' hm => h op' (List.mem_cons_of_mem _ hm)]
    rfl

end Feed

/-! ### Requests -/

/-- What a request does at an observer that is alive. -/
def ObserveRequest.operations (o : ObserverId) (request : ObserveRequest) : List Operation :=
  match request.action with
  | .nothing => []
  | .one t options => [.observeOne o t options]
  | .many types => [.observeMany o types]

namespace Timeline

variable {ε : Type} {hooks : Hooks ε} {tl : Timeline ε} {o : ObserverId}

/-- Apply requests to observers, one after another. -/
def observeAll (hooks : Hooks ε) (tl : Timeline ε) (requests : List (ObserverId × ObserveRequest)) :
    Timeline ε :=
  requests.foldl (fun tl x => Module.observe hooks (some x.1) x.2 tl) tl

/-- The operations of some requests. -/
def subscriptions (requests : List (ObserverId × ObserveRequest)) : List Operation :=
  requests.flatMap fun x => x.2.operations x.1

theorem observe_eq_run (hl : tl.isLive o = true) (request : ObserveRequest) :
    Module.observe hooks (some o) request tl = tl.run hooks (request.operations o) := by
  unfold Module.observe Timeline.observe ObserveRequest.operations
  dsimp only [Option.elim]
  cases request.action with
  | nothing => rfl
  | one t options => simp [perform, onLive, hl]
  | many types => simp [perform, onLive, hl]

theorem isLive_operations (hp : hooks.Passive) (h : tl.Sound) {p : ObserverId} (hl : tl.isLive p = true)
    (request : ObserveRequest) : (tl.run hooks (request.operations o)).isLive p = true := by
  have hop {op : Operation} (hdrop : op ≠ .drop p) : (tl.run hooks [op]).isLive p = true := by
    obtain ⟨host, heq⟩ := perform_eq hp h.nodup op
    rw [run_cons, heq]
    exact isLive_effect_of_ne_drop hdrop hl
  unfold ObserveRequest.operations
  cases request.action with
  | nothing => exact hl
  | one t options => exact hop nofun
  | many types => exact hop nofun

theorem observeAll_eq_run (hp : hooks.Passive) (h : tl.Sound)
    {requests : List (ObserverId × ObserveRequest)} (hl : ∀ x ∈ requests, tl.isLive x.1 = true) :
    tl.observeAll hooks requests = tl.run hooks (subscriptions requests) := by
  induction requests generalizing tl with
  | nil => rfl
  | cons x requests ih =>
    have hfirst : Module.observe hooks (some x.1) x.2 tl = tl.run hooks (x.2.operations x.1) :=
      observe_eq_run (hl x List.mem_cons_self) x.2
    have hrest : ∀ y ∈ requests, (tl.run hooks (x.2.operations x.1)).isLive y.1 = true :=
      fun y hy => isLive_operations hp h (hl y (List.mem_cons_of_mem _ hy)) x.2
    rw [subscriptions, List.flatMap_cons, run_append, ← subscriptions, ← ih (h.run hp _) hrest, ← hfirst]
    rfl

theorem resubscribed_append (o : ObserverId) (f : Filter) (a b : List Operation) :
    resubscribed o f (a ++ b) = resubscribed o (resubscribed o f a) b := List.foldl_append

/-- Requests to others do not change a subscription. -/
theorem resubscribe_operations {p : ObserverId} (hp : p ≠ o) (request : ObserveRequest) (f : Filter) :
    resubscribed o f (request.operations p) = f := by
  unfold ObserveRequest.operations
  cases request.action with
  | nothing => rfl
  | one t options => exact if_neg hp
  | many types => exact if_neg hp

theorem resubscribe_others {requests : List (ObserverId × ObserveRequest)} (h : ∀ x ∈ requests, x.1 ≠ o)
    (f : Filter) : resubscribed o f (subscriptions requests) = f := by
  induction requests with
  | nil => rfl
  | cons x requests ih =>
    rw [subscriptions, List.flatMap_cons, resubscribed_append,
      resubscribe_operations (h x List.mem_cons_self)]
    exact ih fun y hy => h y (List.mem_cons_of_mem _ hy)

/-- Of requests to different observers each has its own only. -/
theorem resubscribe_subscriptions {requests : List (ObserverId × ObserveRequest)}
    (hn : (requests.map Prod.fst).Nodup) {request : ObserveRequest} (hmem : (o, request) ∈ requests)
    (f : Filter) : resubscribed o f (subscriptions requests) = resubscribed o f (request.operations o) := by
  obtain ⟨before, after, rfl⟩ := List.append_of_mem hmem
  rw [List.map_append, List.map_cons, List.nodup_middle, List.nodup_cons, List.mem_append] at hn
  have hbefore : ∀ x ∈ before, x.1 ≠ o := fun x hx ho => hn.1 (.inl (List.mem_map.mpr ⟨x, hx, ho⟩))
  have hafter : ∀ x ∈ after, x.1 ≠ o := fun x hx ho => hn.1 (.inr (List.mem_map.mpr ⟨x, hx, ho⟩))
  rw [subscriptions, List.flatMap_append, List.flatMap_cons, resubscribed_append, resubscribed_append,
    ← subscriptions, ← subscriptions, resubscribe_others hbefore, resubscribe_others hafter]

/-- A request that does not ask for stored entries begins with none. -/
theorem subscribesAnew_of_mem {requests : List (ObserverId × ObserveRequest)}
    (h : ∀ x ∈ requests, ∀ t options, x.2.action = .one t options → options.buffered = false) :
    ∀ op ∈ subscriptions requests, op.subscribesAnew = true := by
  intro op hop
  obtain ⟨x, hx, hop⟩ := List.mem_flatMap.mp hop
  unfold ObserveRequest.operations at hop
  cases haction : x.2.action with
  | nothing =>
    rw [haction] at hop
    exact absurd hop List.not_mem_nil
  | one t options =>
    rw [haction] at hop
    rw [List.mem_singleton.mp hop, Operation.subscribesAnew, h x hx t options haction]
    rfl
  | many types =>
    rw [haction] at hop
    rw [List.mem_singleton.mp hop]
    rfl

/-- A list of types decides over a request by its members alone. -/
theorem observe_of_entryTypes {request request' : ObserveRequest} {types types' : List EntryType}
    (h : request.entryTypes = some types) (h' : request'.entryTypes = some types')
    (hsame : ∀ t, t ∈ types' ↔ t ∈ types) (o : ObserverId) :
    Module.observe hooks (some o) request' tl = Module.observe hooks (some o) request tl := by
  have hset : EntryType.all.filter types'.contains = EntryType.all.filter types.contains := by
    refine List.filter_congr fun t _ => ?_
    simp [hsame]
  have hmany (s : Observer) : s.observeMany types' = s.observeMany types := by
    unfold Observer.observeMany
    rw [hset]
  unfold Module.observe Timeline.observe ObserveRequest.action
  rw [h, h']
  dsimp only [Option.elim]
  unfold Timeline.observeMany
  simp only [hmany]

/-! ### What an observer receives -/

/-- An observer that is alive and has not been used. -/
structure Unused (tl : Timeline ε) (o : ObserverId) : Prop where
  live : tl.isLive o = true
  state : ∃ limit, tl.observer? o = some { limit }

/-- What an observer receives in the course of a run, drained or pending in the end. -/
def received (hooks : Hooks ε) (tl : Timeline ε) (o : ObserverId) (ops : List Operation) : List Entry :=
  (tl.drains hooks o ops).flatten ++ (tl.run hooks ops).pending o

/-- An observer receives `es`, in that order: each drain gives out the next piece of it, sorted on request, and
the rest is pending. -/
def Receives (hooks : Hooks ε) (tl : Timeline ε) (o : ObserverId) (ops : List Operation)
    (es : List Entry) : Prop :=
  ∃ pieces : List (List Entry), pieces.length = (sortings o ops).length ∧
    tl.drains hooks o ops = BoundedQueue.dealt (sortings o ops) pieces ∧
    pieces.flatten ++ (tl.run hooks ops).pending o = es

theorem Receives.perm {ops : List Operation} {es : List Entry} (h : tl.Receives hooks o ops es) :
    (tl.received hooks o ops).Perm es := by
  obtain ⟨pieces, hlength, hdrains, rfl⟩ := h
  rw [received, hdrains]
  exact (BoundedQueue.flatten_dealt_perm hlength).append_right _

/-- Without sorted drains the records are received in order. -/
theorem Receives.eq {ops : List Operation} {es : List Entry} (h : tl.Receives hooks o ops es)
    (hsorted : true ∉ sortings o ops) : tl.received hooks o ops = es := by
  obtain ⟨pieces, hlength, hdrains, rfl⟩ := h
  rw [received, hdrains, BoundedQueue.dealt_of_not_mem hlength hsorted]

/-- An unused observer receives what is stored after it has subscribed and passes its subscription. -/
theorem receives_subscribed (hp : hooks.Passive) (h : tl.Sound) (hopen : tl.isOpen = true)
    (hunused : tl.Unused o) {requests : List (ObserverId × ObserveRequest)}
    (hanew : ∀ op ∈ subscriptions requests, op.subscribesAnew = true) {later : List Operation}
    (hlater : ∀ op ∈ later, op.spares o = true)
    (hnone : Module.droppedCount (some o) ((tl.run hooks (subscriptions requests)).run hooks later) = 0) :
    (tl.run hooks (subscriptions requests)).Receives hooks o later ((tl.recorder.storedBy later).filter
      ((resubscribed o .nothing (subscriptions requests)).admits ·)) := by
  obtain ⟨limit, hstate⟩ := hunused.state
  have htracked : tl.Tracked o .nothing { limit } :=
    ⟨h, hopen, ⟨_, hstate, rfl, fun _ => rfl⟩, fun hn => absurd rfl hn⟩
  have hconn : tl.isConnected o = true := by
    unfold isConnected
    rw [hstate]
    rfl
  let ops := subscriptions requests ++ later
  have hregular : ∀ op ∈ ops, op.isDirect = false ∧ op.keepsOpen = true :=
    List.forall_mem_append.mpr ⟨fun op hm => Operation.regular_of_subscribesAnew (hanew op hm),
      fun op hm => Operation.regular_of_spares (hlater op hm)⟩
  have hspared : ∀ op ∈ ops, op ≠ .drop o ∧ op ≠ .disconnect o :=
    List.forall_mem_append.mpr ⟨fun op hm => Operation.ne_of_subscribesAnew (hanew op hm),
      fun op hm => Operation.ne_of_spares (hlater op hm)⟩
  obtain ⟨hlive', hconn'⟩ := alive_run hp h hunused.live hconn hspared
  obtain ⟨hdrains, g, hend⟩ := htracked.run hp (fun op hm => (hregular op hm).1)
    (fun op hm => (hregular op hm).2) hlive' hconn'
  have hunsubscribed : ∀ op ∈ later, op.subscribes o = false :=
    fun op hm => Operation.subscribes_of_spares (hlater op hm)
  have hnodrains : tl.drains hooks o (subscriptions requests) = [] := by
    refine drains_eq_nil (fun op hm => ?_) tl
    have hop := hanew op hm
    cases op <;> first | rfl | cases hop
  rw [feed_subscriptions hanew] at hdrains hend
  rw [drains_append, hnodrains, List.nil_append] at hdrains
  rw [run_append] at hend
  obtain ⟨s, hs, hq, -⟩ := hend.state
  -- What is dropped is what the reference queue refuses.
  have hrefused : (BoundedQueue.after { limit } (feed o tl.recorder
      (resubscribed o .nothing (subscriptions requests)) later)).refused ≤ 0 := by
    rw [← hq]
    simp only [Module.droppedCount, Option.bind_some, hs, Option.map_some, Option.getD_some] at hnone
    exact Nat.le_of_eq hnone
  obtain ⟨pieces, hlength, houtputs, hpieces⟩ := BoundedQueue.deals _ _ hrefused
  rw [sorts_feed hunsubscribed] at hlength houtputs
  rw [offered_feed hunsubscribed, ← hq] at hpieces
  refine ⟨pieces, hlength, hdrains.trans houtputs, ?_⟩
  rw [pending_eq hs]
  exact hpieces

/-- Of an observer's request it matters only which subscription it asks for. -/
theorem receives_requested (hp : hooks.Passive) (h : tl.Sound) (hopen : tl.isOpen = true)
    {requests : List (ObserverId × ObserveRequest)} (hn : (requests.map Prod.fst).Nodup)
    (hlive : ∀ x ∈ requests, tl.isLive x.1 = true)
    (hbuffered : ∀ x ∈ requests, ∀ t options, x.2.action = .one t options → options.buffered = false)
    {request : ObserveRequest} (hmem : (o, request) ∈ requests) (hunused : tl.Unused o)
    {later : List Operation} (hlater : ∀ op ∈ later, op.spares o = true)
    (hnone : Module.droppedCount (some o) ((tl.observeAll hooks requests).run hooks later) = 0) :
    (tl.observeAll hooks requests).Receives hooks o later ((tl.recorder.storedBy later).filter
      ((resubscribed o .nothing (request.operations o)).admits ·)) := by
  rw [observeAll_eq_run hp h hlive] at hnone ⊢
  rw [← resubscribe_subscriptions hn hmem]
  exact receives_subscribed hp h hopen hunused (subscribesAnew_of_mem hbuffered) hlater hnone

/-! ### Merging -/

/-- An observer is subscribed to a list of types, whatever else its request says, and others are subscribed to
each of these types, all at once and in any order. If none of them ever drops anything, the one receives what
the others receive, each record once and in the order of reports. It makes no difference which list names the
types. -/
theorem many_merges_singles (hp : hooks.Passive) (capacities : Capacities) (host : ε)
    (before later : List Operation) (hopen : ∀ op ∈ before, op.keepsOpen = true) (m : ObserverId)
    (request : ObserveRequest) (types distinct : List EntryType) (hrequest : request.entryTypes = some types)
    (hdistinct : distinct.Nodup) (hsame : ∀ t, t ∈ distinct ↔ t ∈ types) (single : EntryType → ObserverId)
    (hobservers : (m :: distinct.map single).Nodup) (requests : List (ObserverId × ObserveRequest))
    (hrequests : requests.Perm ((m, request) :: distinct.map fun t => (single t, .single t))) :
    let start := (new capacities host).run hooks before
    let joint := start.observeAll hooks requests
    (∀ o ∈ m :: distinct.map single, start.Unused o ∧ (∀ op ∈ later, op.spares o = true) ∧
      Module.droppedCount (some o) (joint.run hooks later) = 0) →
    (∃ merged : List Entry, (merged.Pairwise fun x y => x.sequence < y.sequence) ∧
      merged.Perm (distinct.flatMap fun t => joint.received hooks (single t) later) ∧
      joint.Receives hooks m later merged ∧
      (true ∉ sortings m later → joint.received hooks m later = merged)) ∧
    ∀ (request' : ObserveRequest) (types' : List EntryType), request'.entryTypes = some types' →
      (∀ t, t ∈ types' ↔ t ∈ types) → ∀ tl : Timeline ε,
        Module.observe hooks (some m) request' tl = Module.observe hooks (some m) request tl := by
  intro start joint hall
  have hsound : start.Sound := (sound_new capacities host).run hp before
  have hstart : start.isOpen = true := isOpen_run hp (sound_new capacities host) hopen
  have haction : request.action = .many types := by
    unfold ObserveRequest.action
    rw [hrequest]
  have hobserver : ∀ x ∈ requests, x.1 ∈ m :: distinct.map single := by
    intro x hx
    have hx' := List.mem_map_of_mem (f := Prod.fst) (hrequests.mem_iff.mp hx)
    simpa [Function.comp_def] using hx'
  have hlive : ∀ x ∈ requests, start.isLive x.1 = true := fun x hx => (hall x.1 (hobserver x hx)).1.live
  have hbuffered : ∀ x ∈ requests, ∀ t options, x.2.action = .one t options → options.buffered = false := by
    intro x hx t options hone
    rcases List.mem_cons.mp (hrequests.mem_iff.mp hx) with rfl | hx
    · cases haction.symm.trans hone
    · obtain ⟨u, -, rfl⟩ := List.mem_map.mp hx
      obtain ⟨-, rfl⟩ := ObserveAction.one.inj hone
      rfl
  have hnodup : (requests.map Prod.fst).Nodup := by
    refine ((hrequests.map Prod.fst).nodup_iff).mpr ?_
    simpa [Function.comp_def] using hobservers
  have hreceives {o : ObserverId} {own : ObserveRequest} (hown : (o, own) ∈ requests) :
      joint.Receives hooks o later ((start.recorder.storedBy later).filter
        ((resubscribed o .nothing (own.operations o)).admits ·)) := by
    obtain ⟨hunused, hspares, hnone⟩ := hall o (hobserver _ hown)
    exact receives_requested hp hsound hstart hnodup hlive hbuffered hown hunused hspares hnone
  refine ⟨⟨(start.recorder.storedBy later).filter fun e => distinct.contains e.entryType, ?_, ?_, ?_⟩, ?_⟩
  · exact (Recorder.ascending_storedBy _ _).filter _
  · refine (perm_flatMap_filter hdistinct _).trans (List.Perm.flatMap_left _ fun t ht => ?_)
    have hmem : (single t, ObserveRequest.single t) ∈ requests :=
      hrequests.mem_iff.mpr (List.mem_cons_of_mem _ (List.mem_map_of_mem ht))
    have hsingle := hreceives hmem
    have hfilter : resubscribed (single t) .nothing ((ObserveRequest.single t).operations (single t)) =
        .one t {} := if_pos rfl
    rw [hfilter] at hsingle
    refine .trans (.of_eq (List.filter_congr fun e _ => ?_)) hsingle.perm.symm
    simp [Filter.admits, ObserveOptions.admits]
  · have hmany := hreceives (hrequests.mem_iff.mpr List.mem_cons_self)
    have hfilter : resubscribed m .nothing (request.operations m) = .many types := by
      rw [ObserveRequest.operations, haction]
      exact if_pos rfl
    rw [hfilter] at hmany
    have hadmits : (start.recorder.storedBy later).filter (fun e => distinct.contains e.entryType) =
        (start.recorder.storedBy later).filter ((Filter.many types).admits ·) := by
      refine List.filter_congr fun e _ => ?_
      simp [Filter.admits, hsame]
    rw [hadmits]
    exact ⟨hmany, hmany.eq⟩
  · intro request' types' hrequest' hsame' tl
    exact observe_of_entryTypes hrequest hrequest' hsame' m

/-- A request that names a type twice, and a single type, a threshold and stored entries beside the list, which
do not matter then. -/
theorem many_merges_singles_two_types :
    let before : List Operation :=
      [.report (.mark "early" .zero), .create 9 .direct, .create 9 .direct, .create 9 .scheduled]
    let later : List Operation :=
      [.report (.mark "a" .zero), .report (.measure "b" .zero .zero), .take 0 false, .clearAll,
        .report (.longTask "c" .zero .zero), .report (.mark "d" .zero), .take 1 true]
    let request : ObserveRequest := ⟨some [.measure, .mark, .measure], some .event, some true, some ⟨16.0⟩⟩
    let single : EntryType → ObserverId := fun t => if t = .mark then 1 else 2
    let requests := [(1, .single .mark), (0, request), (2, .single .measure)]
    let start := (new .standard ()).run .quiet before
    let joint := start.observeAll .quiet requests
    (∀ o ∈ 0 :: [EntryType.mark, .measure].map single, start.Unused o ∧
      (∀ op ∈ later, op.spares o = true) ∧ Module.droppedCount (some o) (joint.run .quiet later) = 0) ∧
    (joint.received .quiet 0 later).map Entry.name = ["a", "b", "d"] ∧
    ∃ merged : List Entry, joint.received .quiet 0 later = merged ∧
      merged.Perm ([EntryType.mark, .measure].flatMap fun t => joint.received .quiet (single t) later) := by
  intro before later request single requests start joint
  have hall : ∀ o ∈ 0 :: [EntryType.mark, .measure].map single, start.Unused o ∧
      (∀ op ∈ later, op.spares o = true) ∧ Module.droppedCount (some o) (joint.run .quiet later) = 0 := by
    intro o ho
    have ho : o = 0 ∨ o = 1 ∨ o = 2 := by simpa [single] using ho
    rcases ho with rfl | rfl | rfl <;> exact ⟨⟨by decide, 9, by decide⟩, by decide, by decide⟩
  have hsame (t : EntryType) : t ∈ [EntryType.mark, .measure] ↔ t ∈ [EntryType.measure, .mark, .measure] := by
    cases t <;> decide
  obtain ⟨⟨merged, -, hperm, -, hmany⟩, -⟩ := many_merges_singles Hooks.passive_quiet .standard () before later
    (by decide) 0 request [.measure, .mark, .measure] [.mark, .measure] rfl (by decide) hsame single
    (by decide) requests (.swap ..) hall
  exact ⟨hall, by decide +kernel, merged, hmany (by decide), hperm⟩

end Timeline

end PerfTimeline
