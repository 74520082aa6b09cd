import PerfTimeline.Proofs.Delivery.Dispatch

/-!
# A late buffered subscription is an early one

An observer that subscribes to a type before its entries are reported, and another one that begins with the
stored entries after they have been reported, are told apart by nothing but their watermarks, as long as the
buffer has given up none of them. Both have been filled with the same list: the first entry by entry, the
second at once. From then on they are twins: whatever happens to both finds them alike again, because a new
entry is numbered above every watermark.
-/

namespace PerfTimeline

namespace Operation

/-- Whether an operation acts on no observer in particular, and neither offers entries directly nor gives the
recorder up. -/
def isCommon : Operation → Bool
  | report _ | reportEvent .. | clear .. | clearAll | resetDropped | clearCounts | create .. => true
  | _ => false

/-- Whether an operation reports an entry or makes an observer. -/
def isArrival : Operation → Bool
  | report _ | reportEvent .. | create .. => true
  | _ => false

variable {op : Operation}

theorem keepsOpen_of_isCommon (h : op.isCommon = true) : op.keepsOpen = true := by
  cases op <;> first | rfl | cases h

theorem isDirect_of_isCommon (h : op.isCommon = true) : op.isDirect = false := by
  cases op <;> first | rfl | cases h

/-- Common operations leave each observer to itself. -/
theorem frame_of_isCommon (h : op.isCommon = true) (o : ObserverId) :
    op.drains o = false ∧ op.disconnects o = false := by
  cases op <;> first | exact ⟨rfl, rfl⟩ | cases h

theorem isCommon_of_isArrival (h : op.isArrival = true) : op.isCommon = true := by
  cases op <;> first | rfl | cases h

theorem isArrival_iff : op.isArrival = true ↔
    (∃ e, op.reported? = some e) ∨ ∃ limit route, op = create limit route := by
  cases op <;> simp [isArrival, reported?]

end Operation

/-- What happens to two observers alike. -/
inductive Shared where
  /-- A report, a removal of entries, or what else acts on no observer. -/
  | common (op : Operation) (h : op.isCommon = true)
  /-- Both are drained. -/
  | drain (sorted : Bool)

def Shared.operations (a b : ObserverId) : Shared → List Operation
  | common op _ => [op]
  | drain sorted => [.take a sorted, .take b sorted]

/-! ### Alike observers -/

namespace Observer

/-- Connected observers that differ in nothing but how they came to subscribe. -/
structure Alike (s s' : Observer) : Prop where
  same : s' = { s with filter := s'.filter, watermark := s'.watermark }
  admits : ∀ e, s'.filter.admits e = s.filter.admits e
  connected : s.isDisconnected = false

theorem Alike.connected' {s s' : Observer} (h : s.Alike s') : s'.isDisconnected = false := by
  rw [h.same]
  exact h.connected

theorem Alike.push {s s' : Observer} (h : s.Alike s') (hs : s.Coherent) (hs' : s'.Coherent) {n : Nat}
    (hm : s.MarkedUpTo n) (hm' : s'.MarkedUpTo n) {e : Entry} (he : n < e.sequence) :
    (s.push e).1.Alike (s'.push e).1 := by
  have haccepts : s'.accepts e = s.accepts e := by
    unfold accepts Observer.admits
    rw [hm.hasCopied_eq_false he, hm'.hasCopied_eq_false he, h.connected, h.connected', h.admits]
  rw [push_eq_fill hs, push_eq_fill hs', haccepts]
  split
  · have hfill : s'.fill [e] = { s.fill [e] with filter := s'.filter, watermark := s'.watermark } := by
      rw [h.same]
      rfl
    exact ⟨hfill, h.admits, isDisconnected_fill s [e] h.connected⟩
  · exact h

theorem Alike.take {s s' : Observer} (h : s.Alike s') (sorted : Bool) :
    (s.take sorted).1.Alike (s'.take sorted).1 ∧ (s'.take sorted).2 = (s.take sorted).2 := by
  refine ⟨⟨?_, h.admits, (isDisconnected_take s sorted).trans h.connected⟩, ?_⟩
  · rw [h.same]
    rfl
  · rw [h.same]
    rfl

end Observer

namespace Timeline

variable {ε : Type} {hooks : Hooks ε} {tl : Timeline ε} {a b : ObserverId}

theorem isLive_effect_of_common {op : Operation} (hop : op.isCommon = true) {o : ObserverId}
    (hl : tl.isLive o = true) : (tl.effect op).isLive o = true := by
  cases op with
  | report e => exact (isLive_announce ..).trans hl
  | reportEvent name start duration timing => exact (isLive_announce ..).trans hl
  | create limit route =>
    have ho := lt_length_of_isLive hl
    simp only [effect, create, isLive]
    rw [List.getElem?_append_left ho]
    exact hl
  | clear t name => exact hl
  | clearAll => exact hl
  | resetDropped => exact hl
  | clearCounts => exact hl
  | _ => cases hop

theorem effectOn_of_common {op : Operation} (hop : op.isCommon = true) (hr : op.reported? = none)
    (o : ObserverId) (s : Observer) : tl.effectOn o s op = s := by
  cases op with
  | report e => cases hr
  | reportEvent name start duration timing => cases hr
  | clear t name => rfl
  | clearAll => rfl
  | resetDropped => rfl
  | clearCounts => rfl
  | create limit route => rfl
  | _ => cases hop

/-! ### Twins -/

/-- Two living observers that hear of every report and are alike. -/
structure Twins (tl : Timeline ε) (a b : ObserverId) : Prop where
  sound : tl.Sound
  isOpen : tl.isOpen = true
  ne : a ≠ b
  live : tl.isLive a = true ∧ tl.isLive b = true
  registered : a ∈ tl.registry ∧ b ∈ tl.registry
  alike : ∃ s s', tl.observer? a = some s ∧ tl.observer? b = some s' ∧ s.Alike s'

theorem registered_effect_of_common (hopen : tl.isOpen = true) {op : Operation}
    (hop : op.isCommon = true) {o : ObserverId} (hl : tl.isLive o = true) (hr : o ∈ tl.registry)
    {s : Observer} (hs : (tl.effect op).observer? o = some s) (hc : s.isDisconnected = false) :
    o ∈ (tl.effect op).registry := by
  have hdirect := Operation.isDirect_of_isCommon hop
  have hconn : (tl.effect op).isConnected o = true := by simp [isConnected, hs, hc]
  exact (mem_registry_effect (lt_length_of_isLive hl) hdirect hopen (isLive_effect_of_common hop hl)
    hconn).mpr (.inl hr)

theorem Twins.effect (h : tl.Twins a b) {op : Operation} (hop : op.isCommon = true) :
    (tl.effect op).Twins a b := by
  obtain ⟨s, s', hs, hs', halike⟩ := h.alike
  obtain ⟨hla, hlb⟩ := h.live
  obtain ⟨hra, hrb⟩ := h.registered
  have hkeeps := Operation.keepsOpen_of_isCommon hop
  have hafter : (tl.effect op).observer? a = some (tl.effectOn a s op) := by
    rw [observer?_effect tl (lt_length_of_isLive hla), hs]
    rfl
  have hafter' : (tl.effect op).observer? b = some (tl.effectOn b s' op) := by
    rw [observer?_effect tl (lt_length_of_isLive hlb), hs']
    rfl
  have hnext : (tl.effectOn a s op).Alike (tl.effectOn b s' op) := by
    cases hr : op.reported? with
    | some e =>
      have hlistens : tl.listens a = true ∧ tl.listens b = true := by simp [listens, hla, hlb, hra, hrb]
      rw [effectOn_of_reported tl a s hr, effectOn_of_reported tl b s' hr, if_pos hlistens.1,
        if_pos hlistens.2]
      exact halike.push (h.sound.coherent a s hs) (h.sound.coherent b s' hs') (h.sound.marked a s hs)
        (h.sound.marked b s' hs') (Nat.lt_succ_self _)
    | none =>
      rw [effectOn_of_common hop hr, effectOn_of_common hop hr]
      exact halike
  exact ⟨h.sound.effect op, (isOpen_effect tl hkeeps).trans h.isOpen, h.ne,
    ⟨isLive_effect_of_common hop hla, isLive_effect_of_common hop hlb⟩,
    ⟨registered_effect_of_common h.isOpen hop hla hra hafter hnext.connected,
      registered_effect_of_common h.isOpen hop hlb hrb hafter' hnext.connected'⟩,
    _, _, hafter, hafter', hnext⟩

theorem take_eq {o : ObserverId} {s : Observer} (hl : tl.isLive o = true)
    (hs : tl.observer? o = some s) (sorted : Bool) :
    tl.perform hooks (.take o sorted) =
      (tl.updateObserver o fun s => (s.take sorted).1, .records (s.take sorted).2) := by
  have hset := setObserver_eq hs fun s => (s.take sorted).1
  simp only [perform, onLive, hl, ite_true, take, hs]
  rw [← hset]

theorem Twins.drain (h : tl.Twins a b) (sorted : Bool) :
    (tl.run hooks [.take a sorted, .take b sorted]).Twins a b ∧
      tl.drains hooks a [.take a sorted, .take b sorted] =
        tl.drains hooks b [.take a sorted, .take b sorted] := by
  obtain ⟨s, s', hs, hs', halike⟩ := h.alike
  obtain ⟨hla, hlb⟩ := h.live
  have hne := h.ne
  have hne' := h.ne.symm
  have hfirst : tl.perform hooks (.take a sorted) =
      (tl.updateObserver a fun s => (s.take sorted).1, .records (s.take sorted).2) := take_eq hla hs sorted
  have hmid : (tl.updateObserver a fun s => (s.take sorted).1).observer? b = some s' := by
    simp [observer?_updateObserver, hs', hne]
  have hsecond : (tl.updateObserver a fun s => (s.take sorted).1).perform hooks (.take b sorted) =
      ((tl.updateObserver a fun s => (s.take sorted).1).updateObserver b fun s => (s.take sorted).1,
        .records (s'.take sorted).2) :=
    take_eq ((isLive_updateObserver ..).trans hlb) hmid sorted
  obtain ⟨hnext, hrecords⟩ := halike.take sorted
  have hkept {t : Timeline ε} (ht : t.Sound) (o : ObserverId) :
      (t.updateObserver o fun s => (s.take sorted).1).Sound :=
    ht.updateObserver fun s hs hm => ⟨Observer.coherent_take hs sorted, hm⟩
  refine ⟨?_, ?_⟩
  · rw [run_cons, hfirst, run_cons, hsecond, run_nil]
    refine ⟨hkept (hkept h.sound a) b, h.isOpen, h.ne, ?_, h.registered, (s.take sorted).1,
      (s'.take sorted).1, ?_, ?_, hnext⟩
    · simp only [isLive_updateObserver]
      exact h.live
    · simp [observer?_updateObserver, hs, hne']
    · simp [observer?_updateObserver, hs', hne]
  · have ha : tl.drains hooks a [.take a sorted, .take b sorted] = [(s.take sorted).2] := by
      simp [drains, drained, Operation.drains, hfirst, hne', Answer.taken]
    have hb : tl.drains hooks b [.take a sorted, .take b sorted] = [(s'.take sorted).2] := by
      simp [drains, drained, Operation.drains, hfirst, hsecond, hne, Answer.taken]
    rw [ha, hb, hrecords]

theorem Twins.with_host (h : tl.Twins a b) (host : ε) : ({ tl with host } : Timeline ε).Twins a b :=
  ⟨h.sound.with_host host, h.isOpen, h.ne, h.live, h.registered, h.alike⟩

/-- Whatever happens to twins, they give out the same records and are twins in the end. -/
theorem Twins.run (hp : hooks.Passive) (h : tl.Twins a b) (later : List Shared) :
    (tl.run hooks (later.flatMap (Shared.operations a b))).Twins a b ∧
      tl.drains hooks a (later.flatMap (Shared.operations a b)) =
        tl.drains hooks b (later.flatMap (Shared.operations a b)) := by
  induction later generalizing tl with
  | nil => exact ⟨h, rfl⟩
  | cons x later ih =>
    have hone : (tl.run hooks (x.operations a b)).Twins a b ∧
        tl.drains hooks a (x.operations a b) = tl.drains hooks b (x.operations a b) := by
      cases x with
      | common op hop =>
        refine ⟨?_, ?_⟩
        · obtain ⟨host, heq⟩ := perform_eq hp h.sound.nodup op
          rw [Shared.operations, run_cons, heq]
          exact (h.effect hop).with_host host
        · have hnone (o : ObserverId) : tl.drains hooks o [op] = [] := by
            refine drains_eq_nil ?_ tl
            intro op' hm
            rw [List.mem_singleton.mp hm]
            exact (Operation.frame_of_isCommon hop o).1
          rw [Shared.operations, hnone, hnone]
      | drain sorted => exact h.drain sorted
    obtain ⟨htwins, hdrains⟩ := hone
    obtain ⟨htwins', hdrains'⟩ := ih htwins
    rw [List.flatMap_cons, run_append, drains_append, drains_append, hdrains, hdrains']
    exact ⟨htwins', rfl⟩

/-! ### The early observer -/

/-- How many entries of a type some operations report. -/
def reportsOf (t : EntryType) (ops : List Operation) : Nat :=
  (ops.filterMap Operation.reported?).countP fun e => e.entryType == t

/-- An observer that has just subscribed to entries of one type. -/
def subscriber (limit : Nat) (t : EntryType) (options : ObserveOptions) : Observer :=
  { limit, filter := .one t options }

/-- An observer that subscribed when there were no entries of the type, after those stored now have been
reported. -/
def filled (limit : Nat) (t : EntryType) (options : ObserveOptions) (es : List Entry) : Observer :=
  (subscriber limit t options).fill (es.filter options.admits)

theorem coherent_filled (limit : Nat) (t : EntryType) (options : ObserveOptions) (es : List Entry) :
    (filled limit t options es).Coherent ∧ (filled limit t options es).isDisconnected = false := by
  have hco : (subscriber limit t options).Coherent := ⟨fun _ => rfl, nofun, nofun, Nat.zero_le _⟩
  exact ⟨Observer.coherent_fill hco rfl _, Observer.isDisconnected_fill _ _ rfl⟩

theorem push_filled (limit : Nat) (t : EntryType) (options : ObserveOptions) (es : List Entry)
    (e : Entry) : ((filled limit t options es).push e).1 =
      filled limit t options (if e.entryType = t then es ++ [e] else es) := by
  obtain ⟨hco, hd⟩ := coherent_filled limit t options es
  have haccepts : (filled limit t options es).accepts e = (e.entryType == t && options.admits e) := by
    unfold Observer.accepts Observer.admits
    rw [hd]
    simp [Observer.hasCopied, filled, Observer.fill, subscriber, Filter.admits]
  rw [Observer.push_eq_fill hco, haccepts]
  by_cases ht : e.entryType = t
  · rw [if_pos ht]
    cases hadmits : options.admits e with
    | true =>
      rw [if_pos (by simp [ht]), filled, Observer.fill_fill, filled, List.filter_append]
      simp [hadmits]
    | false => simp [filled, List.filter_append, hadmits]
  · simp [ht]

/-- The early observer is alive and registered, and filled with what is stored. -/
structure Early (tl : Timeline ε) (a : ObserverId) (limit : Nat) (t : EntryType)
    (options : ObserveOptions) : Prop where
  sound : tl.Sound
  isOpen : tl.isOpen = true
  live : tl.isLive a = true
  registered : a ∈ tl.registry
  state : tl.observer? a = some (filled limit t options (tl.recorder.buffer t).entries)

theorem entries_effect_of_reported {op : Operation} {e : Entry} (hop : op.reported? = some e)
    {t : EntryType} (hroom : e.entryType = t → ∀ c, (tl.recorder.buffer t).capacity = some c →
      (tl.recorder.buffer t).size < c) :
    ((tl.effect op).recorder.buffer t).entries =
      if e.entryType = t then
        (tl.recorder.buffer t).entries ++ [e.withSequence (tl.recorder.sequence + 1)]
      else (tl.recorder.buffer t).entries := by
  obtain ⟨counts, hrec⟩ := onRecorder_of_reported hop tl.recorder
  rw [recorder_effect, hrec]
  by_cases ht : e.entryType = t
  · rw [if_pos ht]
    have hroom := hroom ht
    subst ht
    rw [Recorder.buffer_append_self]
    exact Buffer.entries_append_of_room hroom _
  · rw [if_neg ht, Recorder.buffer_append_of_ne _ (Ne.symm ht)]
    rfl

theorem Early.effect {limit : Nat} {t : EntryType} {options : ObserveOptions}
    (h : tl.Early a limit t options) {op : Operation} {e : Entry} (hop : op.reported? = some e)
    (hroom : e.entryType = t → ∀ c, (tl.recorder.buffer t).capacity = some c →
      (tl.recorder.buffer t).size < c) : (tl.effect op).Early a limit t options := by
  have hcommon := Operation.isCommon_of_isArrival (Operation.isArrival_iff.mpr (.inl ⟨e, hop⟩))
  have hkeeps := Operation.keepsOpen_of_isCommon hcommon
  have hlistens : tl.listens a = true := by simp [listens, h.live, h.registered]
  have hobs : (tl.effect op).observer? a =
      some (filled limit t options ((tl.effect op).recorder.buffer t).entries) := by
    rw [observer?_effect tl (lt_length_of_isLive h.live), h.state, Option.map_some,
      effectOn_of_reported tl a _ hop, if_pos hlistens, push_filled,
      entries_effect_of_reported hop hroom]
    rfl
  exact ⟨h.sound.effect op, (isOpen_effect tl hkeeps).trans h.isOpen,
    isLive_effect_of_common hcommon h.live,
    registered_effect_of_common h.isOpen hcommon h.live h.registered hobs (coherent_filled ..).2, hobs⟩

theorem Early.with_host {limit : Nat} {t : EntryType} {options : ObserveOptions}
    (h : tl.Early a limit t options) (host : ε) : ({ tl with host } : Timeline ε).Early a limit t options :=
  ⟨h.sound.with_host host, h.isOpen, h.live, h.registered, h.state⟩

theorem Early.effect_create {limit : Nat} {t : EntryType} {options : ObserveOptions}
    (h : tl.Early a limit t options) (limit' : Nat) (route : Route) :
    (tl.effect (.create limit' route)).Early a limit t options := by
  have hobs : (tl.effect (.create limit' route)).observer? a =
      some (filled limit t options (tl.recorder.buffer t).entries) := by
    rw [observer?_effect tl (lt_length_of_isLive h.live), h.state]
    rfl
  exact ⟨h.sound.effect _, (isOpen_effect tl rfl).trans h.isOpen, isLive_effect_of_common rfl h.live,
    registered_effect_of_common h.isOpen rfl h.live h.registered hobs (coherent_filled ..).2, hobs⟩

/-- The early observer stays filled with what is stored as long as the buffer gives nothing up. -/
theorem Early.run (hp : hooks.Passive) {limit : Nat} {t : EntryType} {options : ObserveOptions}
    (h : tl.Early a limit t options) {reports : List Operation}
    (hreports : ∀ op ∈ reports, op.isArrival = true)
    (hroom : ∀ c, (tl.recorder.buffer t).capacity = some c →
      (tl.recorder.buffer t).size + reportsOf t reports ≤ c) :
    (tl.run hooks reports).Early a limit t options := by
  induction reports generalizing tl with
  | nil => exact h
  | cons op reports ih =>
    obtain ⟨host, heq⟩ := perform_eq hp h.sound.nodup op
    have hrest : ∀ op ∈ reports, op.isArrival = true :=
      fun op' hm => hreports op' (List.mem_cons_of_mem _ hm)
    have hrec : (tl.perform hooks op).1.recorder = (tl.effect op).recorder := by rw [heq]
    rcases Operation.isArrival_iff.mp (hreports op List.mem_cons_self) with ⟨e, hop⟩ | ⟨limit', route, rfl⟩
    · have hcount : reportsOf t (op :: reports) =
          reportsOf t reports + if e.entryType = t then 1 else 0 := by
        simp [reportsOf, hop, List.countP_cons]
      have hfits : e.entryType = t → ∀ c, (tl.recorder.buffer t).capacity = some c →
          (tl.recorder.buffer t).size < c := by
        intro ht c hc
        have hle := hroom c hc
        rw [hcount, if_pos ht] at hle
        omega
      have hnext : (tl.perform hooks op).1.Early a limit t options := by
        rw [heq]
        exact (h.effect hop hfits).with_host host
      refine ih hnext hrest ?_
      intro c hc
      rw [hrec, recorder_effect, capacity_onRecorder] at hc
      have hle := hroom c hc
      have hsize : ((tl.perform hooks op).1.recorder.buffer t).size =
          (tl.recorder.buffer t).size + if e.entryType = t then 1 else 0 := by
        rw [hrec, Buffer.size, entries_effect_of_reported hop hfits]
        split <;> simp [Buffer.size]
      have hleft : ((tl.perform hooks op).1.recorder.buffer t).size + reportsOf t reports ≤ c := by omega
      exact hleft
    · have hnext : (tl.perform hooks (.create limit' route)).1.Early a limit t options := by
        rw [heq]
        exact (h.effect_create limit' route).with_host host
      exact ih hnext hrest hroom

/-! ### Joining -/

/-- What becomes of a new observer that subscribes to one type, and of the other observers. -/
structure Joined (o : ObserverId) (limit : Nat) (t : EntryType) (options : ObserveOptions)
    (tl tl' : Timeline ε) : Prop where
  sound : tl'.Sound
  isOpen : tl'.isOpen = true
  recorder : tl'.recorder = tl.recorder
  live : ∀ p, tl'.isLive p = tl.isLive p
  registered : o ∈ tl'.registry
  state : tl'.observer? o = some ((({ limit } : Observer).subscribe t options
    (some (tl.recorder.select t none))).fill (Observer.copied options (some (tl.recorder.select t none))))
  others : ∀ p, p ≠ o → tl'.observer? p = tl.observer? p ∧
    (tl.isLive p = true → p ∈ tl.registry → p ∈ tl'.registry)

theorem joined (hp : hooks.Passive) (h : tl.Sound) (hopen : tl.isOpen = true) {o : ObserverId}
    {limit : Nat} (hlive : tl.isLive o = true) (hstate : tl.observer? o = some { limit })
    (t : EntryType) (options : ObserveOptions) :
    Joined o limit t options tl (tl.run hooks [.observeOne o t options]) := by
  have hsound := h.run hp [.observeOne o t options]
  have hconn : tl.isConnected o = true := by
    unfold isConnected
    rw [hstate]
    rfl
  have hreach : tl.reachable t = some (tl.recorder.select t none) := if_pos hopen
  have henroll : tl.enroll o = tl.register o := if_pos hopen
  obtain ⟨host, hrun⟩ := perform_eq hp h.nodup (.observeOne o t options)
  rw [effect, hlive, hconn, hreach, henroll] at hrun
  have hobs (p : ObserverId) : (tl.run hooks [.observeOne o t options]).observer? p =
      (tl.observer? p).map fun s => if o = p then
        (s.observeOne t options (some (tl.recorder.select t none))).1 else s := by
    rw [run_cons, run_nil, hrun]
    exact observer?_updateObserver (tl.register o) _ p
      fun s => (s.observeOne t options (some (tl.recorder.select t none))).1
  have hregistry : (tl.run hooks [.observeOne o t options]).registry =
      tl.registry.register tl.isLive o := by
    rw [run_cons, run_nil, hrun]
    rfl
  refine ⟨hsound, ?_, ?_, ?_, ?_, ?_, ?_⟩
  · rw [run_cons, run_nil, hrun]
    exact hopen
  · rw [run_cons, run_nil, hrun]
    rfl
  · intro p
    rw [run_cons, run_nil, hrun]
    exact isLive_updateObserver (tl.register o) _ p
      fun s => (s.observeOne t options (some (tl.recorder.select t none))).1
  · rw [hregistry]
    exact Registry.mem_register_self ..
  · rw [hobs, hstate, Option.map_some, if_pos rfl,
      Observer.observeOne_eq_fill (Observer.coherent_new limit) rfl]
  · intro p hne
    refine ⟨?_, ?_⟩
    · rw [hobs]
      simp [Ne.symm hne]
    · intro hl hr
      rw [hregistry]
      exact (Registry.mem_register_iff hl).mpr (.inl hr)

theorem Joined.early {limit : Nat} {t : EntryType} {options : ObserveOptions} {tl' : Timeline ε}
    (h : Joined a limit t options tl tl') (hlive : tl.isLive a = true) (hb : options.buffered = false)
    (hnone : tl.recorder.select t none = []) : tl'.Early a limit t options := by
  have hempty : (tl'.recorder.buffer t).entries = [] := by
    rw [h.recorder, ← Recorder.select_none]
    exact hnone
  refine ⟨h.sound, h.isOpen, (h.live a).trans hlive, h.registered, ?_⟩
  rw [h.state, hempty, filled, subscriber]
  simp [Observer.copied, Observer.subscribe, hb]

theorem Early.twins {limit : Nat} {t : EntryType} {options options' : ObserveOptions}
    (h : tl.Early a limit t options) (hthreshold : options'.threshold = options.threshold)
    (hb : options'.buffered = true) (hne : a ≠ b) (hlive : tl.isLive b = true) {tl' : Timeline ε}
    (hj : Joined b limit t options' tl tl') : tl'.Twins a b := by
  obtain ⟨hobs, hregistered⟩ := hj.others a hne
  have hadmits (e : Entry) : options'.admits e = options.admits e := by
    rw [Bool.eq_iff_iff, ObserveOptions.admits_iff, ObserveOptions.admits_iff, hthreshold]
  have hcopied : Observer.copied options' (some (tl.recorder.select t none)) =
      (tl.recorder.buffer t).entries.filter options.admits := by
    rw [Observer.copied, if_pos hb, Recorder.select_none]
    exact List.filter_congr fun e _ => hadmits e
  refine ⟨hj.sound, hj.isOpen, hne, ⟨(hj.live a).trans h.live, (hj.live b).trans hlive⟩,
    ⟨hregistered h.live h.registered, hj.registered⟩, _, _, hobs.trans h.state, hj.state, ?_, ?_, ?_⟩
  · rw [hcopied]
    rfl
  · intro e
    simp only [filled, subscriber, Observer.fill, Observer.subscribe, Filter.admits, hadmits]
  · exact (coherent_filled ..).2

/-! ### Requests -/

theorem cutShort_eq_false {o : ObserverId} {ops : List Operation}
    (hops : ∀ op ∈ ops, op.disconnects o = false) (tl : Timeline ε) : tl.cutShort hooks o ops = false := by
  induction ops generalizing tl with
  | nil => rfl
  | cons op ops ih =>
    rw [cutShort, ih fun op' hm => hops op' (List.mem_cons_of_mem _ hm)]
    simp [cuts, hops op List.mem_cons_self]

/-- An observer that has not been drained yet: it has been requested once if it is pending, and else not at
all. -/
structure Unserved (o : ObserverId) (tl : Timeline Journal) : Prop where
  sound : tl.Sound
  known : o < tl.slots.length
  route : ∃ r, tl.route? o = some r
  requests : (requests o tl.host).length = (tl.isPending o).toNat

/-- An observer that has been made, and not been used yet. -/
structure Fresh (tl : Timeline Journal) (o : ObserverId) (limit : Nat) : Prop where
  live : tl.isLive o = true
  state : tl.observer? o = some { limit }
  unasked : requests o tl.host = []

theorem fresh_create (capacities : Capacities) (before : List Operation) (limit : Nat) (route : Route) :
    let start := (new capacities []).run .journal before
    (start.create limit route).1.Fresh start.slots.length limit := by
  intro start
  refine ⟨?_, ?_, requests_of_unmade capacities before (Nat.le_refl _)⟩
  · simp [create, isLive]
  · exact (observer?_append_slot ..).trans (if_pos rfl)

theorem Fresh.unserved {o : ObserverId} {limit : Nat} {tl : Timeline Journal} (h : tl.Fresh o limit)
    (hs : tl.Sound) : Unserved o tl := by
  have hlt := lt_length_of_isLive h.live
  refine ⟨hs, hlt, ⟨(tl.slots.get ⟨o, hlt⟩).route, ?_⟩, ?_⟩
  · unfold route?
    rw [List.getElem?_eq_getElem hlt, Option.map_some]
    rfl
  · rw [h.unasked, isPending, h.state]
    rfl

/-- An observer that nobody disconnects has been requested once for each of its servings, and once more if
it is pending. -/
theorem Unserved.length_requests {o : ObserverId} {tl : Timeline Journal} (h : Unserved o tl)
    {ops : List Operation} (hops : ∀ op ∈ ops, op.disconnects o = false) :
    (PerfTimeline.requests o (tl.run .journal ops).host).length =
      tl.servings .journal o ops + ((tl.run .journal ops).isPending o).toNat := by
  obtain ⟨r, hr⟩ := h.route
  obtain ⟨-, hrequests, hbalance⟩ := balance_run h.sound h.known hr ops
  rw [cutShort_eq_false hops, Bool.or_false] at hbalance
  rw [hrequests, List.length_append, List.length_replicate, h.requests]
  omega

theorem Unserved.run {o : ObserverId} {tl : Timeline Journal} (h : Unserved o tl) {ops : List Operation}
    (hops : ∀ op ∈ ops, op.drains o = false ∧ op.disconnects o = false) :
    Unserved o (tl.run .journal ops) := by
  obtain ⟨r, hr⟩ := h.route
  have hlen := h.length_requests fun op hm => (hops op hm).2
  rw [servings_eq_zero fun op hm => (hops op hm).1, Nat.zero_add] at hlen
  exact ⟨h.sound.run Hooks.passive_journal ops,
    Nat.lt_of_lt_of_le h.known (length_slots_run Hooks.passive_journal h.sound ops),
    ⟨r, (balance_run h.sound h.known hr ops).1.trans hr⟩, hlen⟩

theorem Unserved.arrivals {o : ObserverId} {tl : Timeline Journal} (h : Unserved o tl)
    {reports : List Operation} (hreports : ∀ op ∈ reports, op.isArrival = true) :
    Unserved o (tl.run .journal reports) := by
  refine h.run ?_
  intro op hop
  exact Operation.frame_of_isCommon (Operation.isCommon_of_isArrival (hreports op hop)) o

theorem Unserved.observeOne {o : ObserverId} {tl : Timeline Journal} (h : Unserved o tl) (p : ObserverId)
    (t : EntryType) (options : ObserveOptions) :
    Unserved o (tl.run .journal [.observeOne p t options]) := by
  refine h.run ?_
  intro op hop
  rw [List.mem_singleton.mp hop]
  exact ⟨rfl, rfl⟩

/-! ### Early and late -/

/-- What two observers have in common that cannot be told apart from outside. -/
structure Indistinguishable (tl : Timeline Journal) (a b : ObserverId) : Prop where
  states : ∃ s s', tl.observer? a = some s ∧ tl.observer? b = some s' ∧
    s'.queue = s.queue ∧ s'.status = s.status ∧ s'.dropped = s.dropped
  requests : (requests b tl.host).length = (requests a tl.host).length

theorem disconnects_shared (a b : ObserverId) (later : List Shared) {o : ObserverId} :
    ∀ op ∈ later.flatMap (Shared.operations a b), op.disconnects o = false := by
  intro op hop
  obtain ⟨x, -, hx⟩ := List.mem_flatMap.mp hop
  cases x with
  | common op' hcommon =>
    rw [List.mem_singleton.mp hx]
    exact (Operation.frame_of_isCommon hcommon o).2
  | drain sorted =>
    rcases List.mem_cons.mp hx with rfl | hx
    · rfl
    · rw [List.mem_singleton.mp hx]
      rfl

/-- Twins that have not been drained yet cannot be told apart, whatever happens to them. -/
theorem Twins.indistinguishable {tl : Timeline Journal} (h : tl.Twins a b) (ha : Unserved a tl)
    (hb : Unserved b tl) (later : List Shared) :
    let ops := later.flatMap (Shared.operations a b)
    Indistinguishable (tl.run .journal ops) a b ∧ tl.drains .journal a ops = tl.drains .journal b ops := by
  intro ops
  have hrun : (tl.run .journal ops).Twins a b ∧ tl.drains .journal a ops = tl.drains .journal b ops :=
    h.run Hooks.passive_journal later
  obtain ⟨hend, hdrains⟩ := hrun
  obtain ⟨s, s', hs, hs', halike⟩ := hend.alike
  have hstatus : s'.status = s.status := by rw [halike.same]
  refine ⟨⟨⟨s, s', hs, hs', ?_, hstatus, ?_⟩, ?_⟩, hdrains⟩
  · rw [halike.same]
  · rw [halike.same]
  · -- Both have been served as often, and are pending alike.
    have hpending : (tl.run .journal ops).isPending b = (tl.run .journal ops).isPending a := by
      simp only [isPending, hs, hs', Option.any_some, hstatus]
    rw [ha.length_requests (disconnects_shared a b later), hb.length_requests (disconnects_shared a b later),
      hpending, servings, servings, hdrains]

theorem Fresh.early {start : Timeline Journal} {limit : Nat} (h : start.Fresh a limit) (hs : start.Sound)
    (hopen : start.isOpen = true) {t : EntryType} (hnone : start.recorder.select t none = [])
    {threshold : Option Duration} {reports : List Operation}
    (hreports : ∀ op ∈ reports, op.isArrival = true)
    (hcapacity : ∀ c, (start.recorder.buffer t).capacity = some c → reportsOf t reports ≤ c) :
    ((start.run .journal [.observeOne a t ⟨false, threshold⟩]).run .journal reports).Early a limit t
      ⟨false, threshold⟩ := by
  have hp := Hooks.passive_journal
  have hjoined := joined hp hs hopen h.live h.state t ⟨false, threshold⟩
  have hsize : (start.recorder.buffer t).size = 0 := by
    rw [Buffer.size, ← Recorder.select_none, hnone]
    rfl
  refine (hjoined.early h.live (by rfl) hnone).run hp hreports ?_
  intro c hc
  rw [hjoined.recorder] at hc ⊢
  have hle := hcapacity c hc
  omega

/-- Take any timeline that stores no entry of a type. One new observer subscribes to the type before some
reports, of which the buffer has to give up none of the type; another new one with the same limit and
threshold begins with the stored entries after the reports. They cannot be told apart then, nor after
whatever happens to both of them later, and they give out the same records. -/
theorem late_subscription_eq_early (capacities : Capacities) (before : List Operation)
    (hbefore : ∀ op ∈ before, op.keepsOpen = true) (a b : ObserverId) (limit : Nat) (t : EntryType)
    (threshold : Option Duration) (reports : List Operation)
    (hreports : ∀ op ∈ reports, op.isArrival = true) (later : List Shared) :
    let start := (new capacities []).run .journal before
    let early := (start.run .journal [.observeOne a t ⟨false, threshold⟩]).run .journal reports
    let both := early.run .journal [.observeOne b t ⟨true, threshold⟩]
    let ops := later.flatMap (Shared.operations a b)
    start.Fresh a limit → early.Fresh b limit → start.recorder.select t none = [] →
    (∀ c, capacities.get t = some c → reportsOf t reports ≤ c) →
      Indistinguishable (both.run .journal ops) a b ∧
        both.drains .journal a ops = both.drains .journal b ops := by
  intro start early both ops hfresh hfresh' hnone hcapacity
  have hp := Hooks.passive_journal
  have hsound : start.Sound := (sound_new capacities []).run hp before
  have hopen : start.isOpen = true := isOpen_run hp (sound_new capacities []) hbefore
  have hearly : early.Early a limit t ⟨false, threshold⟩ := by
    refine hfresh.early hsound hopen hnone hreports ?_
    intro c hc
    rw [capacity_run hp (sound_new capacities []) before t, capacity_new capacities [] t] at hc
    exact hcapacity c hc
  have hne : a ≠ b := by
    -- The early observer has subscribed, the other one has not.
    rintro rfl
    have hsame := Option.some.inj (hearly.state.symm.trans hfresh'.state)
    exact nomatch congrArg Observer.filter hsame
  have htwins : both.Twins a b := hearly.twins (by rfl) (by rfl) hne hfresh'.live
    (joined hp hearly.sound hearly.isOpen hfresh'.live hfresh'.state t ⟨true, threshold⟩)
  have ha : Unserved a both :=
    (((hfresh.unserved hsound).observeOne a t ⟨false, threshold⟩).arrivals hreports).observeOne b t
      ⟨true, threshold⟩
  have hb : Unserved b both := (hfresh'.unserved hearly.sound).observeOne b t ⟨true, threshold⟩
  exact htwins.indistinguishable ha hb later

/-- Three marks among other entries, which fill the buffer and of which a queue has room for two, then a
drain and a fourth mark. -/
theorem late_subscription_eq_early_three_marks :
    let capacities : Capacities := ⟨some 3, none, none, none, none⟩
    let before := [.report (.measure "load" .zero .zero), .create 2 .direct]
    let reports := [.report (.mark "a" .zero), .report (.measure "paint" .zero .zero),
      .report (.mark "b" .zero), .create 2 .direct, .report (.mark "c" .zero)]
    let start := (new capacities []).run .journal before
    let early := (start.run .journal [.observeOne 0 .mark ⟨false, some .zero⟩]).run .journal reports
    let both := early.run .journal [.observeOne 1 .mark ⟨true, some .zero⟩]
    let later := [Shared.drain false, .common (.report (.mark "d" .zero)) rfl]
    let ops := later.flatMap (Shared.operations 0 1)
    start.Fresh 0 2 ∧ early.Fresh 1 2 ∧ Indistinguishable (both.run .journal ops) 0 1 ∧
      (both.drains .journal 1 ops).map (List.map Entry.name) = [["a", "b"]] ∧
      ((both.run .journal ops).observer? 1).map (·.dropped) = some 1 := by
  intro capacities before reports start early both later ops
  have hfresh : start.Fresh 0 2 :=
    fresh_create capacities [.report (.measure "load" .zero .zero)] 2 .direct
  have hfresh' : early.Fresh 1 2 := ⟨by decide, by decide, by decide⟩
  have hroom : ∀ c, capacities.get .mark = some c → reportsOf .mark reports ≤ c := by
    intro c hc
    have hthree : 3 = c := Option.some.inj hc
    rw [← hthree]
    decide
  obtain ⟨hsame, hdrains⟩ := late_subscription_eq_early capacities before (by decide) 0 1 2 .mark
    (some .zero) reports (by decide) later hfresh hfresh' (by decide) hroom
  refine ⟨hfresh, hfresh', hsame, ?_, by decide⟩
  exact (congrArg _ hdrains.symm).trans (by decide)

end Timeline

end PerfTimeline
