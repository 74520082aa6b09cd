import Mathlib.Data.List.Induction
import PerfTimeline.Proofs.Timeline.Calls

/-!
# Registries in the course of a run

A program turns to the registry of a timeline by its reports, subscriptions and disconnections, or directly. It
may keep further registries, which stand alone and are only used directly. Each step of a run makes at most one
call to a registry, and the registry serves it (`registry_step`). Hence what a registry lists can be told from
the calls of the run, up to the dead (`Kempt`), and for the registry of the timeline also from the subscriptions
and disconnections alone, unless somebody goes past them. Callbacks are passive throughout.
-/

namespace PerfTimeline

variable {ε : Type} {o : ObserverId}

/-! ### Moves -/

/-- The registry of the timeline, or one that stands alone. -/
inductive Home where
  | timeline
  | apart (i : Nat)
deriving DecidableEq

/-- What a program does: it operates on the timeline, or on a registry that stands alone. -/
inductive Move where
  | operate (op : Operation)
  | register (i : Nat) (o : ObserverId)
  | unregister (i : Nat) (o : ObserverId)
  | fanOut (i : Nat) (e : Entry)
deriving DecidableEq

/-- Whether a move registers or removes `o` directly, in the registry of the timeline. -/
def Move.bypasses (o : ObserverId) : Move → Prop
  | operate op => op = .register o ∨ op = .unregister o
  | _ => False

/-- A timeline, and registries of its observers that stand alone. -/
structure Registries (ε : Type) where
  timeline : Timeline ε
  apart : Nat → Registry := fun _ => []

namespace Registries

def new (capacities : Capacities) (host : ε) : Registries ε := { timeline := .new capacities host }

def registry (w : Registries ε) : Home → Registry
  | .timeline => w.timeline.registry
  | .apart i => w.apart i

/-- Change a registry that stands alone. -/
def change (w : Registries ε) (i : Nat) (f : Registry → Registry) : Registries ε :=
  { w with apart := fun j => if i = j then f (w.apart j) else w.apart j }

/-- Make a move. To register or remove an observer takes a handle of it. -/
def step (hooks : Hooks ε) (w : Registries ε) : Move → Registries ε
  | .operate op => { w with timeline := (w.timeline.perform hooks op).1 }
  | .register i o => if w.timeline.isLive o then w.change i (Registry.register w.timeline.isLive o) else w
  | .unregister i o =>
    if w.timeline.isLive o then w.change i (Registry.unregister w.timeline.isLive o) else w
  | .fanOut i e =>
    let w := w.change i (Registry.prune w.timeline.isLive)
    { w with timeline := w.timeline.deliver hooks e (w.apart i) }

def run (hooks : Hooks ε) (w : Registries ε) (ms : List Move) : Registries ε := ms.foldl (step hooks) w

/-- The call that a move makes to a registry. -/
def call? (w : Registries ε) : Home → Move → Option Registry.Call
  | .timeline, .operate op => w.timeline.call? op
  | .apart i, .register j o => if j = i && w.timeline.isLive o then some (.register o) else none
  | .apart i, .unregister j o => if j = i && w.timeline.isLive o then some (.unregister o) else none
  | .apart i, .fanOut j _ => if j = i then some .fanOut else none
  | _, _ => none

/-- The calls that a run makes to a registry, from the last to the first. -/
def calls (hooks : Hooks ε) (home : Home) : Registries ε → List Move → List Registry.Call
  | _, [] => []
  | w, m :: ms => calls hooks home (w.step hooks m) ms ++ (w.call? home m).toList

variable {hooks : Hooks ε} {w : Registries ε} {home : Home} {m : Move} {ms : List Move}

theorem run_concat (hooks : Hooks ε) (w : Registries ε) (ms : List Move) (m : Move) :
    w.run hooks (ms ++ [m]) = (w.run hooks ms).step hooks m := List.foldl_append

theorem calls_concat (hooks : Hooks ε) (home : Home) (w : Registries ε) (ms : List Move) (m : Move) :
    w.calls hooks home (ms ++ [m]) = ((w.run hooks ms).call? home m).toList ++ w.calls hooks home ms := by
  induction ms generalizing w with
  | nil => exact (List.append_nil _).symm
  | cons m' ms ih =>
    rw [List.cons_append, calls, ih, calls, List.append_assoc]
    rfl

theorem isLive_of_call? {call : Registry.Call} (h : w.call? home m = some call)
    (ho : call.names o = true) : w.timeline.isLive o = true := by
  have guarded {i j : Nat} {p : ObserverId} {call' : Registry.Call}
      (h : (if j = i && w.timeline.isLive p then some call' else none) = some call)
      (hnames : call'.names o = (p == o)) : w.timeline.isLive o = true := by
    split at h
    · rename_i hc
      obtain rfl := Option.some.inj h
      have hp : p = o := by simpa [hnames] using ho
      exact hp ▸ (Bool.and_eq_true_iff.mp hc).2
    · cases h
  cases home with
  | timeline =>
    cases m with
    | operate op => exact Timeline.isLive_of_call? h ho
    | _ => cases h
  | apart i =>
    cases m with
    | operate op => cases h
    | register j p => exact guarded (p := p) h rfl
    | unregister j p => exact guarded (p := p) h rfl
    | fanOut j e =>
      simp only [call?] at h
      split at h
      · exact absurd (Option.some.inj h ▸ ho) nofun
      · cases h

/-! ### What registries list -/

variable {calls : Home → List Registry.Call}

/-- A timeline with registries as they follow from calls, none of which is about an observer to come. -/
structure Kempt (w : Registries ε) (calls : Home → List Registry.Call) : Prop where
  sound : w.timeline.Sound
  orderly (home : Home) : (w.registry home).Orderly w.timeline.isLive (calls home)
  listed (home : Home) : ∀ o ∈ w.registry home, o < w.timeline.slots.length
  named (home : Home) : ∀ o, (Registry.registeredAt o (calls home)).isSome → o < w.timeline.slots.length

/-- What a move makes of the timeline, but for the host. -/
def effect (w : Registries ε) : Move → Timeline ε
  | .operate op => w.timeline.effect op
  | .fanOut i e => w.timeline.announce e ((w.apart i).prune w.timeline.isLive)
  | .register .. | .unregister .. => w.timeline

theorem timeline_step (hp : hooks.Passive) (h : w.Kempt calls)
    (m : Move) : ∃ host, (w.step hooks m).timeline = { w.effect m with host } := by
  cases m with
  | operate op => exact Timeline.perform_eq hp h.sound.nodup op
  | register i o => exact ⟨w.timeline.host, by rw [step]; split <;> rfl⟩
  | unregister i o => exact ⟨w.timeline.host, by rw [step]; split <;> rfl⟩
  | fanOut i e =>
    have hpruned : (w.change i (Registry.prune w.timeline.isLive)).apart i =
        (w.apart i).prune w.timeline.isLive := if_pos rfl
    have hnodup := Registry.nodup_prune (h.orderly (.apart i)).nodup w.timeline.isLive
    obtain ⟨host, hdeliver⟩ := Timeline.deliver_eq hp e hnodup w.timeline
    refine ⟨host, ?_⟩
    show Timeline.deliver hooks e ((w.change i _).apart i) w.timeline = _
    rw [hpruned]
    exact hdeliver

/-- Nobody dies or comes to life by a move that makes a call. -/
theorem isLive_step_of_call? {call : Registry.Call} (hp : hooks.Passive) (h : w.Kempt calls)
    (hc : w.call? home m = some call) : (w.step hooks m).timeline.isLive = w.timeline.isLive := by
  obtain ⟨host, heq⟩ := timeline_step hp h m
  have hhost : (w.step hooks m).timeline.isLive = (w.effect m).isLive := by
    rw [heq]
    rfl
  rw [hhost]
  cases m with
  | operate op =>
    cases home with
    | timeline => exact Timeline.isLive_effect_of_call? hc
    | apart i => cases hc
  | register i o => rfl
  | unregister i o => rfl
  | fanOut i e => exact funext fun o => Timeline.isLive_announce ..

theorem ages_step (hp : hooks.Passive) (h : w.Kempt calls) (m : Move) :
    w.timeline.Ages (w.step hooks m).timeline := by
  obtain ⟨host, heq⟩ := timeline_step hp h m
  rw [heq]
  refine Timeline.Ages.with_host ?_ host
  cases m with
  | operate op => exact Timeline.ages_effect h.sound op
  | register i o => exact .of_same h.sound rfl rfl rfl
  | unregister i o => exact .of_same h.sound rfl rfl rfl
  | fanOut i e =>
    exact .of_same (h.sound.announce e _) rfl (Timeline.length_slots_announce ..)
      (funext fun o => Timeline.isLive_announce ..)

/-- A registry serves the call that is made to it, and nothing else happens to it. -/
theorem registry_step (hp : hooks.Passive) (h : w.Kempt calls) (m : Move) (home : Home) :
    (w.step hooks m).registry home =
      (w.call? home m).elim (w.registry home) ((w.registry home).serve w.timeline.isLive) := by
  cases home with
  | timeline =>
    obtain ⟨host, heq⟩ := timeline_step hp h m
    show (w.step hooks m).timeline.registry = _
    rw [heq]
    cases m with
    | operate op => exact Timeline.registry_effect w.timeline op
    | _ => rfl
  | apart i =>
    cases m with
    | operate op => rfl
    | register j o =>
      rw [step, call?]
      cases w.timeline.isLive o with
      | true => by_cases hj : j = i <;> simp [change, registry, hj, Registry.serve]
      | false => simp
    | unregister j o =>
      rw [step, call?]
      cases w.timeline.isLive o with
      | true => by_cases hj : j = i <;> simp [change, registry, hj, Registry.serve]
      | false => simp
    | fanOut j e =>
      rw [step, call?]
      by_cases hj : j = i <;> simp [change, registry, hj, Registry.serve]

theorem kempt_new (capacities : Capacities) (host : ε) :
    (new capacities host).Kempt fun home => (new capacities host).calls hooks home [] where
  sound := Timeline.sound_new capacities host
  orderly home := by cases home <;> exact .nil _
  listed home := by cases home <;> exact nofun
  named home := nofun

/-- Whom a registry lists after a move was there before it. -/
theorem lt_length_of_mem_step (hp : hooks.Passive) (h : w.Kempt calls)
    (ho : o ∈ (w.step hooks m).registry home) : o < w.timeline.slots.length := by
  rw [registry_step hp h] at ho
  cases hc : w.call? home m with
  | none =>
    rw [hc] at ho
    exact h.listed home o ho
  | some call =>
    rw [hc] at ho
    rcases Registry.mem_of_mem_serve ho with hm | rfl
    · exact h.listed home o hm
    · exact Timeline.lt_length_of_isLive (isLive_of_call? hc (by simp [Registry.Call.names]))

theorem lt_length_of_registered (h : w.Kempt calls)
    (ho : (Registry.registeredAt o ((w.call? home m).toList ++ calls home)).isSome) :
    o < w.timeline.slots.length := by
  cases hc : w.call? home m with
  | none =>
    rw [hc] at ho
    exact h.named home o ho
  | some call =>
    rw [hc] at ho
    rcases Registry.registered_of_cons ho with hr | rfl
    · exact h.named home o hr
    · exact Timeline.lt_length_of_isLive (isLive_of_call? hc (by simp [Registry.Call.names]))

theorem served_step {call : Registry.Call} (hp : hooks.Passive) (h : w.Kempt calls)
    (hc : w.call? home m = some call) :
    Registry.Served (w.step hooks m).timeline.isLive call (w.registry home)
      ((w.step hooks m).registry home) := by
  rw [registry_step hp h, hc, isLive_step_of_call? hp h hc]
  exact Registry.serve_served call fun o ho => isLive_of_call? hc ho

/-- A fan-out leaves as many listed as are alive and registered. -/
theorem length_registry_step (hp : hooks.Passive) (h : w.Kempt calls) (hc : w.call? home m = some .fanOut) :
    ((w.step hooks m).registry home).length =
      (List.range (w.step hooks m).timeline.slots.length).countP fun o =>
        (w.step hooks m).timeline.isLive o && (Registry.registeredAt o (calls home)).isSome := by
  have hlive := isLive_step_of_call? hp h hc
  rw [registry_step hp h, hc, hlive]
  refine (h.orderly home).length_prune fun o ho => ?_
  exact Timeline.lt_length_of_isLive (hlive ▸ ho)

/-- A move keeps the registries as they follow from the calls. -/
theorem Kempt.step (hp : hooks.Passive) (h : w.Kempt calls) (m : Move) :
    (w.step hooks m).Kempt fun home => (w.call? home m).toList ++ calls home := by
  have hages := ages_step hp h m
  refine ⟨hages.sound, fun home => ?_,
    fun home o ho => Nat.lt_of_lt_of_le (lt_length_of_mem_step hp h ho) hages.length_le,
    fun home o ho => Nat.lt_of_lt_of_le (lt_length_of_registered h ho) hages.length_le⟩
  have hserved : ((w.step hooks m).registry home).Orderly w.timeline.isLive
      ((w.call? home m).toList ++ calls home) := by
    rw [registry_step hp h]
    cases hc : w.call? home m with
    | none => exact h.orderly home
    | some call => exact (h.orderly home).serve call fun o ho => isLive_of_call? hc ho
  refine hserved.age fun o ho => ?_
  by_cases hlt : o < w.timeline.slots.length
  · exact .inl (hages.isLive hlt ho)
  · exact .inr ⟨fun hm => hlt (lt_length_of_mem_step hp h hm),
      Option.not_isSome_iff_eq_none.mp fun hs => hlt (lt_length_of_registered h hs)⟩

theorem kempt_run (hp : hooks.Passive) (capacities : Capacities) (host : ε) (ms : List Move) :
    ((new capacities host).run hooks ms).Kempt fun home => (new capacities host).calls hooks home ms := by
  induction ms using List.reverseRecOn with
  | nil => exact kempt_new capacities host
  | append_singleton ms m ih =>
    simp only [run_concat, calls_concat]
    exact ih.step hp m

/-! ### Subscriptions and disconnections -/

/-- Whether a move was made in the course of a run of which `p` was true then. -/
def Happened (hooks : Hooks ε) (w : Registries ε) (ms : List Move) (p : Registries ε → Move → Prop) : Prop :=
  ∃ before m after, ms = before ++ m :: after ∧ p (w.run hooks before) m

/-- A move that makes a living, connected observer observe something. -/
def Observes (o : ObserverId) (w : Registries ε) (m : Move) : Prop :=
  ∃ op, m = .operate op ∧ op.subscribes o = true ∧ w.timeline.isLive o = true ∧
    w.timeline.isConnected o = true

/-- A move that disconnects a living observer. -/
def Disconnects (o : ObserverId) (w : Registries ε) (m : Move) : Prop :=
  m = .operate (.disconnect o) ∧ w.timeline.isLive o = true

theorem not_happened_nil {p : Registries ε → Move → Prop} : ¬ w.Happened hooks [] p := by
  rintro ⟨before, m, after, h, -⟩
  exact List.append_ne_nil_of_right_ne_nil before (List.cons_ne_nil m after) h.symm

theorem happened_concat {p : Registries ε → Move → Prop} :
    w.Happened hooks (ms ++ [m]) p ↔ w.Happened hooks ms p ∨ p (w.run hooks ms) m := by
  constructor
  · rintro ⟨before, m', after, h, hm⟩
    rcases after.eq_nil_or_concat with rfl | ⟨after, last, rfl⟩
    · obtain ⟨rfl, rfl⟩ := List.concat_inj.mp (by simpa using h)
      exact .inr hm
    · rw [List.concat_eq_append, ← List.cons_append, ← List.append_assoc] at h
      exact .inl ⟨before, m', after, (List.append_inj_left' h rfl), hm⟩
  · rintro (⟨before, m', after, rfl, hm⟩ | hm)
    · exact ⟨before, m', after ++ [m], by simp, hm⟩
    · exact ⟨ms, m, [], rfl, hm⟩

theorem isConnected_step_iff (hp : hooks.Passive) (h : w.Kempt calls) (hl : w.timeline.isLive o = true)
    (m : Move) : (w.step hooks m).timeline.isConnected o = true ↔
      w.timeline.isConnected o = true ∧ ¬ Disconnects o w m := by
  obtain ⟨host, heq⟩ := timeline_step hp h m
  rw [heq]
  cases m with
  | operate op =>
    exact (Timeline.isConnected_effect_iff h.sound hl op).trans (by simp [Disconnects, hl])
  | register i p => simp [effect, Disconnects, Timeline.isConnected, Timeline.observer?]
  | unregister i p => simp [effect, Disconnects, Timeline.isConnected, Timeline.observer?]
  | fanOut i e =>
    have hsame := Timeline.isConnected_announce h.sound e ((w.apart i).prune w.timeline.isLive) o
    show (w.timeline.announce e _).isConnected o = true ↔ _
    rw [hsame]
    simp [Disconnects]

/-- A living observer that reaches the recorder gets registered by subscriptions and removed by its first
disconnection. -/
theorem mem_registry_step_iff (hp : hooks.Passive) (h : w.Kempt calls)
    (hm : ¬ m.bypasses o) (hl : w.timeline.isLive o = true) (hopen : w.timeline.isOpen = true) :
    o ∈ (w.step hooks m).timeline.registry ↔ Observes o w m ∨
      o ∈ w.timeline.registry ∧ ¬ (Disconnects o w m ∧ w.timeline.isConnected o = true) := by
  have hregistry : (w.step hooks m).timeline.registry = (w.call? .timeline m).elim w.timeline.registry
      (w.timeline.registry.serve w.timeline.isLive) := registry_step hp h m .timeline
  rw [hregistry]
  cases m with
  | operate op =>
    have hregister := Timeline.call?_eq_register_iff (fun hop => hm (.inl hop)) hl hopen
    have hunregister := Timeline.call?_eq_unregister_iff (fun hop => hm (.inr hop)) hl hopen
    have hobserves : Observes o w (.operate op) ↔ w.timeline.call? op = some (.register o) :=
      Iff.trans (by simp [Observes, hl]) hregister.symm
    have hdisconnects : Disconnects o w (.operate op) ∧ w.timeline.isConnected o = true ↔
        w.timeline.call? op = some (.unregister o) :=
      Iff.trans (by simp [Disconnects, hl]) hunregister.symm
    rw [hobserves, hdisconnects]
    show o ∈ (w.timeline.call? op).elim _ _ ↔ _
    cases w.timeline.call? op with
    | none => simp
    | some call =>
      rw [Option.some.injEq, Option.some.injEq]
      exact Registry.mem_serve_iff hl
  | register i p => simp [call?, Observes, Disconnects]
  | unregister i p => simp [call?, Observes, Disconnects]
  | fanOut i e => simp [call?, Observes, Disconnects]

/-- An observer as it follows from its subscriptions and disconnections, as long as nobody goes past them. -/
structure Followed (hooks : Hooks ε) (o : ObserverId) (start : Registries ε) (ms : List Move) : Prop where
  known (h : start.Happened hooks ms (Observes o) ∨ start.Happened hooks ms (Disconnects o)) :
    o < (start.run hooks ms).timeline.slots.length
  connected (hl : (start.run hooks ms).timeline.isLive o = true) :
    (start.run hooks ms).timeline.isConnected o = true ↔ ¬ start.Happened hooks ms (Disconnects o)
  registered (hms : ∀ m ∈ ms, ¬ m.bypasses o) (hl : (start.run hooks ms).timeline.isLive o = true)
    (hopen : (start.run hooks ms).timeline.isOpen = true) :
    o ∈ (start.run hooks ms).timeline.registry ↔
      start.Happened hooks ms (Observes o) ∧ ¬ start.Happened hooks ms (Disconnects o)

section Followed

variable {start : Registries ε}

/-- Before it is made, nothing is done with an observer. -/
theorem Followed.unmade (h : start.Followed hooks o ms)
    (ho : ¬ o < (start.run hooks ms).timeline.slots.length) (m : Move) :
    ¬ start.Happened hooks (ms ++ [m]) (Observes o) ∧ ¬ start.Happened hooks (ms ++ [m]) (Disconnects o) := by
  rw [happened_concat, happened_concat]
  constructor
  · rintro (hpast | ⟨op, -, -, hl, -⟩)
    · exact ho (h.known (.inl hpast))
    · exact ho (Timeline.lt_length_of_isLive hl)
  · rintro (hpast | ⟨-, hl⟩)
    · exact ho (h.known (.inr hpast))
    · exact ho (Timeline.lt_length_of_isLive hl)

theorem Followed.registered_step (hp : hooks.Passive) (hk : (start.run hooks ms).Kempt calls)
    (h : start.Followed hooks o ms) (hms : ∀ m' ∈ ms ++ [m], ¬ m'.bypasses o)
    (hl : (start.run hooks ms).timeline.isLive o = true) (hopen : (start.run hooks ms).timeline.isOpen = true) :
    o ∈ ((start.run hooks ms).step hooks m).timeline.registry ↔
      start.Happened hooks (ms ++ [m]) (Observes o) ∧ ¬ start.Happened hooks (ms ++ [m]) (Disconnects o) := by
  have hbefore := h.registered (fun m' hm' => hms m' (List.mem_append_left _ hm')) hl hopen
  have hconnected := h.connected hl
  rw [mem_registry_step_iff hp hk (hms m List.mem_concat_self) hl hopen, hbefore, hconnected, happened_concat,
    happened_concat]
  by_cases hobserves : Observes o (start.run hooks ms) m
  · -- A subscription is made by a connected observer, and is not a disconnection.
    obtain ⟨op, rfl, hop, -, hc⟩ := id hobserves
    have hnone := hconnected.mp hc
    have hnot : ¬ Disconnects o (start.run hooks ms) (.operate op) := by
      rintro ⟨hd, -⟩
      rw [Move.operate.inj hd] at hop
      cases hop
    simp [hobserves, hnone, hnot]
  · simp only [hobserves, false_or, or_false]
    by_cases hgone : start.Happened hooks ms (Disconnects o)
    · simp [hgone]
    · simp [hgone]

theorem Followed.concat (hp : hooks.Passive) (hk : (start.run hooks ms).Kempt calls)
    (h : start.Followed hooks o ms) (m : Move) : start.Followed hooks o (ms ++ [m]) := by
  have hages := ages_step hp hk m
  have hnext := run_concat hooks start ms m
  refine ⟨fun hdone => ?_, fun hl => ?_, fun hms hl hopen => ?_⟩
  · have ho : o < (start.run hooks ms).timeline.slots.length := Decidable.byContradiction fun ho =>
      hdone.elim (h.unmade ho m).1 (h.unmade ho m).2
    rw [hnext]
    exact Nat.lt_of_lt_of_le ho hages.length_le
  · rw [hnext] at hl ⊢
    by_cases ho : o < (start.run hooks ms).timeline.slots.length
    · have hl' := hages.isLive ho hl
      rw [isConnected_step_iff hp hk hl', h.connected hl', happened_concat, not_or]
    · exact iff_of_true (hages.made (Nat.le_of_not_lt ho) hl) (h.unmade ho m).2
  · rw [hnext] at hl hopen ⊢
    by_cases ho : o < (start.run hooks ms).timeline.slots.length
    · exact h.registered_step hp hk hms (hages.isLive ho hl) (hages.isOpen hopen)
    · have hnot : o ∉ ((start.run hooks ms).step hooks m).registry .timeline := fun hmem =>
        ho (lt_length_of_mem_step hp hk hmem)
      exact iff_of_false hnot fun hdone => (h.unmade ho m).1 hdone.1

end Followed

theorem followed_run (hp : hooks.Passive) (capacities : Capacities) (host : ε) (ms : List Move)
    (o : ObserverId) : (new capacities host).Followed hooks o ms := by
  induction ms using List.reverseRecOn with
  | nil =>
    have hdead : (new capacities host).timeline.isLive o = false := by
      simp [new, Timeline.new, Timeline.isLive]
    exact ⟨fun h => (h.elim not_happened_nil not_happened_nil).elim,
      fun hl => absurd (hdead.symm.trans hl) Bool.false_ne_true,
      fun _ hl => absurd (hdead.symm.trans hl) Bool.false_ne_true⟩
  | append_singleton ms m ih => exact ih.concat hp (kempt_run hp capacities host ms) m

/-- What can be said of the registries after a run, and of what the next move makes of them. -/
structure Regular (hooks : Hooks ε) (start : Registries ε) (ms : List Move) : Prop where
  orderly (home : Home) : ((start.run hooks ms).registry home).Orderly (start.run hooks ms).timeline.isLive
    (start.calls hooks home ms)
  idle {m : Move} {home : Home} (h : (start.run hooks ms).call? home m = none) :
    (start.run hooks (ms ++ [m])).registry home = (start.run hooks ms).registry home
  served {m : Move} {home : Home} {call : Registry.Call}
    (h : (start.run hooks ms).call? home m = some call) :
    Registry.Served (start.run hooks (ms ++ [m])).timeline.isLive call ((start.run hooks ms).registry home)
      ((start.run hooks (ms ++ [m])).registry home)
  /-- After a fan-out as many are listed as are alive and registered. -/
  counted {m : Move} {home : Home} (h : (start.run hooks ms).call? home m = some .fanOut) :
    let after := start.run hooks (ms ++ [m])
    (after.registry home).length = (List.range after.timeline.slots.length).countP fun o =>
      after.timeline.isLive o && (Registry.registeredAt o (start.calls hooks home ms)).isSome
  /-- Unless somebody goes past its subscriptions and disconnections, these decide whether an observer is
  registered. -/
  registered {o : ObserverId} (hms : ∀ m ∈ ms, ¬ m.bypasses o)
    (hl : (start.run hooks ms).timeline.isLive o = true)
    (hopen : (start.run hooks ms).timeline.isOpen = true) :
    o ∈ (start.run hooks ms).timeline.registry ↔
      start.Happened hooks ms (Observes o) ∧ ¬ start.Happened hooks ms (Disconnects o)

/-- The registries are regular after every run. -/
theorem regular_run (hp : hooks.Passive) (capacities : Capacities) (host : ε) (ms : List Move) :
    (new capacities host).Regular hooks ms := by
  have hkempt := kempt_run hp capacities host ms
  refine ⟨hkempt.orderly, fun h => ?_, fun h => ?_, fun {m home} h => ?_,
    (followed_run hp capacities host ms _).registered⟩
  · rw [run_concat, registry_step hp hkempt, h]
    rfl
  · rw [run_concat]
    exact served_step hp hkempt h
  · intro after
    have hafter : after = ((new capacities host).run hooks ms).step hooks m := run_concat ..
    rw [hafter]
    exact length_registry_step hp hkempt h

/-- The first to subscribe comes first, and subscribing again does not move it. The one that has died without
being disconnected disappears with the next report. -/
theorem regular_run_of_three :
    let ms : List Move := [.operate (.create 2 .direct), .operate (.create 2 .direct),
      .operate (.create 2 .direct), .operate (.observeMany 1 [.mark]), .operate (.observeMany 2 [.mark]),
      .operate (.observeOne 0 .mark {}), .operate (.observeMany 1 [.measure]), .register 4 1,
      .operate (.drop 2)]
    let start : Registries Unit := new (.const none) ()
    let report : Move := .operate (.report (.mark "a" .zero))
    Hooks.quiet.Passive ∧ start.Regular .quiet ms ∧
      (start.run .quiet ms).timeline.registry = [1, 2, 0] ∧
      (start.run .quiet (ms ++ [report])).timeline.registry = [1, 0] ∧
      (start.run .quiet (ms ++ [report])).apart 4 = [1] := by
  intro ms start report
  exact ⟨Hooks.passive_quiet, regular_run Hooks.passive_quiet (.const none) () ms, by decide, by decide,
    by decide⟩

end Registries

end PerfTimeline
