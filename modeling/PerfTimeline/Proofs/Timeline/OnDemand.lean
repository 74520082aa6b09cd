import PerfTimeline.Proofs.Timeline.Coupling
import PerfTimeline.Proofs.Timeline.Transcript

/-!
# Buffers on demand

A buffer comes into being with the first entry of its type. It might as well have been there from the start:
a timeline and another one whose recorder has all five buffers from the start are answered alike by every
operation and to every question (`transcript_prepared`). All that sets them apart is told when a type is cleared
of which nothing was reported yet.
-/

namespace PerfTimeline

/-! ### All buffers in use -/

namespace Recorder

/-- The recorder with the buffers of all types in use. -/
def furnished (r : Recorder) : Recorder :=
  { r with buffers := ⟨some (r.buffer .mark), some (r.buffer .measure), some (r.buffer .event),
      some (r.buffer .longTask), some (r.buffer .resource)⟩ }

/-- A new recorder that has an empty buffer for each type. -/
def prepared (capacities : Capacities) : Recorder where
  capacities := capacities
  buffers := ⟨some (.empty .mark capacities.mark), some (.empty .measure capacities.measure),
    some (.empty .event capacities.event), some (.empty .longTask capacities.longTask),
    some (.empty .resource capacities.resource)⟩

theorem furnished_new (capacities : Capacities) : (new capacities).furnished = prepared capacities := rfl

theorem get_furnished (r : Recorder) (t : EntryType) : r.furnished.buffers.get t = some (r.buffer t) := by
  cases t <;> rfl

theorem buffer_furnished (r : Recorder) (t : EntryType) : r.furnished.buffer t = r.buffer t := by
  rw [buffer, get_furnished]
  rfl

theorem furnished_furnished (r : Recorder) : r.furnished.furnished = r.furnished := by
  refine eq_of_get rfl (fun t => ?_) rfl rfl
  rw [get_furnished, get_furnished, buffer_furnished]

theorem select_furnished (r : Recorder) (t : EntryType) (name : Option String) :
    r.furnished.select t name = r.select t name := by
  rw [select_eq, select_eq, buffer_furnished]

theorem onRecorder_furnished (op : Operation) (r : Recorder) :
    op.onRecorder r.furnished = (op.onRecorder r).furnished := by
  have hcapacities : (op.onRecorder r.furnished).capacities = (op.onRecorder r).capacities := by
    rw [capacities_onRecorder, capacities_onRecorder]
    rfl
  have hsequence : (op.onRecorder r.furnished).sequence = (op.onRecorder r).sequence := by
    rw [sequence_onRecorder_eq, sequence_onRecorder_eq]
    rfl
  have hcounts : (op.onRecorder r.furnished).counts = (op.onRecorder r).counts := by
    cases op with
    | clear t name => exact (counts_clear r.furnished t name).trans (counts_clear r t name).symm
    | clearAll => exact (counts_clearAll r.furnished).trans (counts_clearAll r).symm
    | _ => rfl
  refine eq_of_get hcapacities (fun t => ?_) hsequence hcounts
  have hnumber : r.furnished.sequence = r.sequence := rfl
  rw [get_furnished, get_onRecorder, get_furnished, buffer_onRecorder, hnumber]
  cases op.changeOn t (r.sequence + 1) with
  | none => rfl
  | some change => cases change <;> rfl

/-- Storing an entry is told the same, whether its buffer is new or was in use. -/
theorem append_furnished (r : Recorder) (e : Entry) : (r.furnished.append e).2.2 = (r.append e).2.2 := by
  rw [append_events, append_events, buffer_furnished]
  rfl

end Recorder

namespace Timeline

variable {ε : Type}

def furnished (tl : Timeline ε) : Timeline ε := { tl with recorder := tl.recorder.furnished }

/-- A new timeline whose recorder has all buffers from the start. -/
def prepared (capacities : Capacities) (host : ε) : Timeline ε := { recorder := .prepared capacities, host }

/-- No question tells whether a buffer is empty or not in use. -/
theorem reply_furnished (tl : Timeline ε) (q : Query) : tl.furnished.reply q = tl.reply q := by
  cases q with
  | select t name => exact congrArg Reply.entries (tl.recorder.select_furnished t name)
  | selectSorted types name =>
    refine congrArg (fun stored => Reply.entries (Entry.sort (types.flatMap stored))) ?_
    exact funext fun t => tl.recorder.select_furnished t name
  | markTime name =>
    refine congrArg Reply.time ?_
    rw [Recorder.markTime?_eq, Recorder.markTime?_eq, furnished, Recorder.buffer_furnished]
  | size t =>
    refine congrArg Reply.count ?_
    rw [Recorder.size_eq, Recorder.size_eq, furnished, Recorder.buffer_furnished]
  | dropped t =>
    refine congrArg Reply.count ?_
    rw [Recorder.dropped_eq, Recorder.dropped_eq, furnished, Recorder.buffer_furnished]
  | counts => rfl
  | observer o => rfl

end Timeline

/-! ### What is told of types that are not in use -/

/-- A moment as it would be told if all buffers were in use. -/
def Moment.furnished : Moment → Moment
  | incident i => incident i
  | begun d before => begun d before.furnished
  | ended d before a after => ended d before.furnished a after.furnished

/-- Whether an entry of type `t` is reported at this moment. -/
def Moment.reports (t : EntryType) : Moment → Bool
  | incident (.traced (.reported e)) => e.entryType = t
  | _ => false

def Narrative.hasReported (n : Narrative) (t : EntryType) : Bool := n.any (·.reports t)

/-- Whether a removal is told from a type of which nothing was reported in the past. -/
def Moment.isVain (past : Narrative) : Moment → Bool
  | incident (.traced (.cleared t _ _)) => !past.hasReported t
  | _ => false

namespace Narrative

/-- What comes behind `past`, without the vain removals. -/
def trim (past : Narrative) : Narrative → Narrative
  | [] => []
  | m :: ms => if m.isVain past then trim (past ++ [m]) ms else m :: trim (past ++ [m]) ms

theorem hasReported_append (a b : Narrative) (t : EntryType) :
    hasReported (a ++ b) t = (a.hasReported t || b.hasReported t) := List.any_append

theorem hasReported_concat {m : Moment} {t : EntryType} (hm : m.reports t = false) (past : Narrative) :
    hasReported (past ++ [m]) t = past.hasReported t := by
  rw [hasReported_append]
  simp [hasReported, hm]

theorem trim_append (past a b : Narrative) :
    trim past (a ++ b) = trim past a ++ trim (past ++ a) b := by
  induction a generalizing past with
  | nil => rw [List.nil_append, List.append_nil]; rfl
  | cons m a ih =>
    rw [List.cons_append, trim, trim, ih, List.append_assoc]
    split <;> rfl

theorem trim_eq_self {ms : Narrative} (h : ∀ m ∈ ms, ∀ past, m.isVain past = false) (past : Narrative) :
    trim past ms = ms := by
  induction ms generalizing past with
  | nil => rfl
  | cons m ms ih =>
    obtain ⟨hm, hms⟩ := List.forall_mem_cons.mp h
    rw [trim, hm past, ih hms]
    rfl

theorem reports_of_isVain {m : Moment} {past : Narrative} {t : EntryType} (h : m.isVain past = true) :
    m.reports t = false := by
  unfold Moment.isVain at h
  split at h
  · rfl
  · cases h

theorem hasReported_trim (past ms : Narrative) (t : EntryType) :
    (trim past ms).hasReported t = ms.hasReported t := by
  induction ms generalizing past with
  | nil => rfl
  | cons m ms ih =>
    unfold hasReported at ih ⊢
    rw [trim, List.any_cons]
    split
    · rw [ih, reports_of_isVain ‹_›, Bool.false_or]
    · rw [List.any_cons, ih]

/-- Of the past it only matters what was reported. -/
theorem trim_congr {past past' : Narrative} (h : ∀ t, past.hasReported t = past'.hasReported t)
    (ms : Narrative) : trim past ms = trim past' ms := by
  induction ms generalizing past past' with
  | nil => rfl
  | cons m ms ih =>
    have hvain : m.isVain past = m.isVain past' := by
      unfold Moment.isVain
      split
      · rw [h]
      · rfl
    have hnext (t : EntryType) : hasReported (past ++ [m]) t = hasReported (past' ++ [m]) t := by
      rw [hasReported_append, hasReported_append, h]
    rw [trim, trim, hvain, ih hnext]

theorem trim_trim (past ms : Narrative) : trim past (trim past ms) = trim past ms := by
  induction ms generalizing past with
  | nil => rfl
  | cons m ms ih =>
    rw [trim]
    split
    · rename_i hm
      -- A vain removal reports nothing, so that the past is as good without it.
      have hpast (t : EntryType) : past.hasReported t = hasReported (past ++ [m]) t :=
        (hasReported_concat (reports_of_isVain hm) past).symm
      rw [trim_congr hpast, ih]
    · rename_i hm
      rw [trim, if_neg hm, ih]

theorem furnished_incidents (incidents : List Incident) :
    (incidents.map Moment.incident).map Moment.furnished = incidents.map Moment.incident := by
  rw [List.map_map]
  rfl

theorem hasReported_furnished (n : Narrative) (t : EntryType) :
    hasReported (n.map Moment.furnished) t = n.hasReported t := by
  unfold hasReported
  rw [List.any_map]
  refine congrArg (List.any n) (funext fun m => ?_)
  cases m <;> rfl

theorem furnished_map_furnished (n : Narrative) :
    (n.map Moment.furnished).map Moment.furnished = n.map Moment.furnished := by
  have htwice (tl : Timeline Unit) : tl.furnished.furnished = tl.furnished := by
    unfold Timeline.furnished
    rw [Recorder.furnished_furnished]
  rw [List.map_map]
  refine congrArg (List.map · n) (funext fun m => ?_)
  cases m with
  | incident i => rfl
  | begun d before => exact congrArg (Moment.begun d) (htwice before)
  | ended d before a after =>
    show Moment.ended d before.furnished.furnished a after.furnished.furnished = _
    rw [htwice, htwice]
    rfl

theorem trim_furnished (past ms : Narrative) :
    trim past (ms.map Moment.furnished) = (trim past ms).map Moment.furnished := by
  induction ms generalizing past with
  | nil => rfl
  | cons m ms ih =>
    have hvain : m.furnished.isVain past = m.isVain past := by cases m <;> rfl
    have hpast (t : EntryType) : hasReported (past ++ [m.furnished]) t = hasReported (past ++ [m]) t := by
      rw [hasReported_append, hasReported_append]
      exact congrArg _ (hasReported_furnished [m] t)
    rw [List.map_cons, trim, trim, hvain, trim_congr hpast, ih]
    split <;> rfl

end Narrative

/-- A timeline as far as anyone can tell by asking: as if all buffers were in use, and without vain removals. -/
def Timeline.seen (tl : Timeline Narrative) : Timeline Narrative :=
  { tl.furnished with host := (Narrative.trim [] tl.host).map Moment.furnished }

/-! ### Deeds on the recorder -/

namespace Recorder

variable {r : Recorder} {past : Narrative}

theorem trim_removals (hused : ∀ t, (r.buffers.get t).isSome = past.hasReported t) (types : List EntryType)
    (name : Option String) :
    Narrative.trim past (((types.flatMap fun t => (r.furnished.clear t name).2).map .traced).map .incident) =
      ((types.flatMap fun t => (r.clear t name).2).map .traced).map .incident := by
  induction types generalizing past with
  | nil => rfl
  | cons t types ih =>
    let m : Moment := .incident (.traced (.cleared t name ((r.buffer t).clearCount name)))
    have hnext (u : EntryType) : (r.buffers.get u).isSome = Narrative.hasReported (past ++ [m]) u :=
      (hused u).trans (Narrative.hasReported_concat rfl past).symm
    have hrest := ih hnext
    have hvain : m.isVain past = !(r.buffers.get t).isSome := by rw [hused]; rfl
    rw [List.flatMap_cons, List.flatMap_cons, clear_snd, get_furnished, Option.map_some, Option.toList_some,
      List.singleton_append, List.map_cons, List.map_cons, Narrative.trim, hvain, hrest, clear_snd]
    -- A removal stays exactly if the buffer was in use, and then it is told on both sides.
    cases hb : r.buffers.get t with
    | none => rfl
    | some b =>
      have hbuffer : r.buffer t = b := by rw [buffer, hb]; rfl
      rw [hbuffer]
      rfl

theorem append_events_cases (e : Entry) : ∀ event ∈ (r.append e).2.2,
    (∃ u name k, event = .evicted u name k) ∨ event = .reported (e.withSequence (r.sequence + 1)) := by
  rw [append_events]
  refine List.forall_mem_append.mpr ⟨fun event hevent => ?_, List.forall_mem_singleton.mpr (.inr rfl)⟩
  obtain ⟨name, k, rfl⟩ := Buffer.append_snd_entryType _ _ event hevent
  exact .inl ⟨_, name, k, rfl⟩

/-- An operation is told the same with all buffers in use, but for vain removals. -/
theorem trim_events (hused : ∀ t, (r.buffers.get t).isSome = past.hasReported t) (op : Operation) :
    Narrative.trim past (((op.events r.furnished).map .traced).map .incident) =
      ((op.events r).map .traced).map .incident := by
  have stored (r : Recorder) (e : Entry) :
      Narrative.trim past ((((r.furnished.append e).2.2).map .traced).map .incident) =
        (((r.append e).2.2).map .traced).map .incident := by
    rw [append_furnished]
    have hvain : ∀ event ∈ (r.append e).2.2, ∀ past, (Moment.incident (.traced event)).isVain past = false := by
      intro event hevent past
      rcases append_events_cases e event hevent with ⟨u, name, k, rfl⟩ | rfl <;> rfl
    exact Narrative.trim_eq_self (List.forall_mem_map.mpr (List.forall_mem_map.mpr hvain)) past
  cases op with
  | report e => exact stored r e
  | reportEvent name start duration timing => exact stored (r.countEvent name) _
  | clear t name => simpa [Operation.events] using trim_removals hused [t] name
  | clearAll =>
    rw [Operation.events, Operation.events, clearAll_snd, clearAll_snd]
    exact trim_removals hused EntryType.all none
  | _ => rfl

theorem hasReported_events (op : Operation) (r : Recorder) (t : EntryType) :
    Narrative.hasReported (((op.events r).map .traced).map .incident) t =
      op.reported?.any (·.entryType = t) := by
  have told (events : List TraceEvent) : Narrative.hasReported ((events.map .traced).map .incident) t =
      events.any fun event => (Moment.incident (.traced event)).reports t := by
    rw [Narrative.hasReported, List.any_map, List.any_map]
    rfl
  have stored (r : Recorder) (e : Entry) :
      ((r.append e).2.2.any fun event => (Moment.incident (.traced event)).reports t) =
        decide (e.entryType = t) := by
    have hevicted : ((r.buffer e.entryType).append (e.withSequence (r.sequence + 1))).2.any
        (fun event => (Moment.incident (.traced event)).reports t) = false := by
      refine List.any_eq_false.mpr fun event hevent => ?_
      obtain ⟨name, k, rfl⟩ := Buffer.append_snd_entryType _ _ event hevent
      exact Bool.false_ne_true
    rw [append_events, List.any_append, hevicted, Bool.false_or, List.any_cons, List.any_nil, Bool.or_false]
    rfl
  have removed (events : List TraceEvent) (h : ∀ event ∈ events, ∃ u name k, event = .cleared u name k) :
      (events.any fun event => (Moment.incident (.traced event)).reports t) = false := by
    refine List.any_eq_false.mpr fun event hevent => ?_
    obtain ⟨u, name, k, rfl⟩ := h event hevent
    exact Bool.false_ne_true
  rw [told]
  cases op with
  | report e => exact stored r e
  | reportEvent name start duration timing => exact stored (r.countEvent name) _
  | clear u name => exact removed _ fun _ hevent => ⟨u, name, mem_clear_snd hevent⟩
  | clearAll =>
    refine removed _ fun event hevent => ?_
    obtain ⟨u, n, rfl⟩ := mem_clearAll_snd hevent
    exact ⟨u, none, n, rfl⟩
  | _ => rfl

/-- Nothing but a report takes a buffer into use. -/
theorem isSome_onRecorder (op : Operation) (r : Recorder) (t : EntryType) :
    ((op.onRecorder r).buffers.get t).isSome =
      ((r.buffers.get t).isSome || op.reported?.any (·.entryType = t)) := by
  have stored (r : Recorder) (e : Entry) : ((r.append e).1.buffers.get t).isSome =
      ((r.buffers.get t).isSome || decide (e.entryType = t)) := by
    rw [get_append]
    split
    · rename_i ht
      simp [ht]
    · rename_i ht
      simp [ht]
  cases op with
  | report e => exact stored r e
  | reportEvent name start duration timing => exact stored (r.countEvent name) _
  | clear u name =>
    rw [Operation.onRecorder, get_clear]
    split <;> simp [Operation.reported?]
  | clearAll =>
    rw [Operation.onRecorder, clearAll_fst, get_foldl_clear]
    split <;> simp [Operation.reported?]
  | resetDropped => simp [Operation.onRecorder, resetDropped, Operation.reported?]
  | _ => exact (Bool.or_false _).symm

end Recorder

/-! ### One recorder for the other -/

/-- Whatever the one recorder holds, the other holds too, and has the buffers in use that the one does not need
yet. Nothing but vain removals is told on that side only. -/
structure Recorder.Prepares (r : Recorder) (n : Narrative) (r' : Recorder) (n' : Narrative) : Prop where
  furnished : r' = r.furnished
  told : Narrative.trim [] n' = n.map Moment.furnished
  /-- A buffer is in use from the first report of its type. -/
  used (t : EntryType) : (r.buffers.get t).isSome = n.hasReported t

namespace Recorder.Prepares

variable {r r' : Recorder} {n n' : Narrative}

theorem hasReported (h : Prepares r n r' n') (t : EntryType) : n'.hasReported t = n.hasReported t := by
  rw [← Narrative.hasReported_trim [] n' t, h.told, Narrative.hasReported_furnished]

theorem append (h : Prepares r n r' n') {next : Recorder} {ms ms' : Narrative}
    (htold : Narrative.trim n' ms' = ms.map Moment.furnished)
    (hused : ∀ t, (next.buffers.get t).isSome = ((r.buffers.get t).isSome || ms.hasReported t)) :
    Prepares next (n ++ ms) next.furnished (n' ++ ms') where
  furnished := rfl
  told := by rw [Narrative.trim_append, List.nil_append, h.told, htold, List.map_append]
  used t := by rw [hused, h.used, Narrative.hasReported_append]

/-- Nothing of what is told regards the buffers. -/
theorem note (h : Prepares r n r' n') {ms : Narrative}
    (hvain : ∀ m ∈ ms, ∀ past, m.furnished.isVain past = false)
    (hreports : ∀ m ∈ ms, ∀ t, m.reports t = false) :
    Prepares r (n ++ ms) r' (n' ++ ms.map Moment.furnished) := by
  have hused (t : EntryType) : Narrative.hasReported ms t = false :=
    List.any_eq_false.mpr fun m hm => by simp [hreports m hm t]
  have htold : Narrative.trim n' (ms.map Moment.furnished) = ms.map Moment.furnished :=
    Narrative.trim_eq_self (List.forall_mem_map.mpr hvain) n'
  have hnext : Prepares r (n ++ ms) r.furnished (n' ++ ms.map Moment.furnished) :=
    h.append htold fun t => by rw [hused, Bool.or_false]
  rwa [h.furnished]

end Recorder.Prepares

theorem Timeline.Paired.bare_eq_furnished {tl tl' : Timeline Narrative} (h : tl.Paired Recorder.Prepares tl') :
    tl'.bare = tl.bare.furnished := by
  have hframe : { tl.frame with recorder := tl.recorder.furnished } =
      { tl'.frame with recorder := tl'.recorder } := by rw [h.frame, h.related.furnished]
  exact hframe.symm

theorem Recorder.coupling_prepares : Recorder.Coupling (fun _ => True) Recorder.Prepares where
  sequence h := by
    rw [h.furnished]
    rfl
  incidents {r r' n n' incidents} h hall := by
    have quiet (i : Incident) (hi : i.isOfObserver = true) :
        (∀ past, (Moment.incident i).isVain past = false) ∧ ∀ t, (Moment.incident i).reports t = false := by
      cases i with
      | traced event => cases event <;> first | exact ⟨fun _ => rfl, fun _ => rfl⟩ | cases hi
      | _ => exact ⟨fun _ => rfl, fun _ => rfl⟩
    have hvain : ∀ m ∈ incidents.map Moment.incident, ∀ past, m.furnished.isVain past = false :=
      List.forall_mem_map.mpr fun i hi => (quiet i (hall i hi)).1
    have hreports : ∀ m ∈ incidents.map Moment.incident, ∀ t, m.reports t = false :=
      List.forall_mem_map.mpr fun i hi => (quiet i (hall i hi)).2
    have hnote := h.note hvain hreports
    rwa [Narrative.furnished_incidents] at hnote
  record h _ := by
    rw [h.furnished, onRecorder_furnished]
    refine h.append ?_ fun t => ?_
    · rw [trim_events fun t => (h.used t).trans (h.hasReported t).symm, Narrative.furnished_incidents]
    · rw [isSome_onRecorder, hasReported_events]
  select h _ _ := by rw [h.furnished, select_furnished]
  begun h _ := by
    rw [h.bare_eq_furnished]
    exact h.related.note (List.forall_mem_singleton.mpr fun _ => rfl) (List.forall_mem_singleton.mpr fun _ => rfl)
  ended hbefore h _ a := by
    rw [h.bare_eq_furnished, hbefore.bare_eq_furnished]
    exact h.related.note (List.forall_mem_singleton.mpr fun _ => rfl) (List.forall_mem_singleton.mpr fun _ => rfl)

/-- As far as anyone can tell, the two are the same. -/
theorem Timeline.Paired.seen {tl tl' : Timeline Narrative} (h : tl.Paired Recorder.Prepares tl') :
    tl.seen = tl'.seen := by
  have hseen (tl : Timeline Narrative) : tl.seen = { tl.frame with
      recorder := tl.recorder.furnished, host := (Narrative.trim [] tl.host).map Moment.furnished } := rfl
  have hrecorder : tl'.recorder.furnished = tl.recorder.furnished := by
    rw [h.related.furnished, Recorder.furnished_furnished]
  have hhost : (Narrative.trim [] tl.host).map Moment.furnished =
      (Narrative.trim [] tl'.host).map Moment.furnished := by
    rw [← Narrative.trim_furnished, ← h.related.told, Narrative.trim_trim, h.related.told,
      Narrative.furnished_map_furnished]
  rw [hseen, hseen, hrecorder, hhost, h.frame]

/-! ### Runs -/

/-- What callbacks do by what they can tell. -/
def Plan.seeing (plan : Plan) : Plan := fun o tl => plan o tl.seen

theorem Plan.coupled_seeing (plan : Plan) (depth : Nat) :
    (Hooks.narrated plan.seeing depth).Coupled Recorder.Prepares (.narrated plan.seeing depth) := by
  refine .narrated Recorder.coupling_prepares (fun hc o tl tl' hpaired => ?_) depth
  have hsame : plan.seeing o tl' = plan.seeing o tl := by
    unfold seeing
    rw [hpaired.seen]
  rw [hsame]
  exact hpaired.narrate Recorder.coupling_prepares hc fun _ _ => trivial

namespace Timeline

variable {hooks hooks' : Hooks Narrative} {tl tl' : Timeline Narrative}

theorem paired_prepared (capacities : Capacities) :
    (new capacities []).Paired Recorder.Prepares (prepared capacities []) where
  related :=
    { furnished := (Recorder.furnished_new capacities).symm
      told := rfl
      used := fun t => by cases t <;> rfl }
  frame := rfl

theorem Paired.reply (h : tl.Paired Recorder.Prepares tl') (q : Query) : tl'.reply q = tl.reply q := by
  have hbare (tl : Timeline Narrative) : tl.reply q = tl.bare.reply q := by cases q <;> rfl
  rw [hbare, hbare, h.bare_eq_furnished, reply_furnished]

theorem Paired.obey (hc : hooks.Coupled Recorder.Prepares hooks') (h : tl.Paired Recorder.Prepares tl')
    (c : Command) : Agree Recorder.Prepares (tl.obey hooks c) (tl'.obey hooks' c) := by
  cases c with
  | operate op =>
    obtain ⟨hnext, hanswer⟩ := h.act Recorder.coupling_prepares hc (d := .operate op) trivial
    exact ⟨hnext, congrArg Reply.answer hanswer⟩
  | ask q => exact ⟨h, (h.reply q).symm⟩

theorem Paired.transcript (hc : hooks.Coupled Recorder.Prepares hooks') (h : tl.Paired Recorder.Prepares tl')
    (cs : List Command) :
    tl.transcript hooks cs = tl'.transcript hooks' cs ∧
      (tl.proceed hooks cs).Paired Recorder.Prepares (tl'.proceed hooks' cs) := by
  induction cs generalizing tl tl' with
  | nil => exact ⟨rfl, h⟩
  | cons c cs ih =>
    obtain ⟨hnext, hreply⟩ := h.obey hc c
    obtain ⟨hrest, hend⟩ := ih hnext
    refine ⟨?_, hend⟩
    rw [Timeline.transcript, Timeline.transcript, hreply, hrest]

/-- Whatever is done and asked, and whatever callbacks do by what they can tell, a recorder that takes its buffers
into use on demand is answered like one that has all of them from the start. At last, and wherever a deed of a
callback begins or ends, everything but the buffers not in use is the same; and the same is told on both sides,
but for vain removals. -/
theorem transcript_prepared (plan : Plan) (depth : Nat) (capacities : Capacities) (cs : List Command) :
    let hooks := Hooks.narrated plan.seeing depth
    let tl := (new capacities []).proceed hooks cs
    let tl' := (prepared capacities []).proceed hooks cs
    (new capacities []).transcript hooks cs = (prepared capacities []).transcript hooks cs ∧
      tl'.bare = tl.bare.furnished ∧ Narrative.trim [] tl'.host = tl.host.map Moment.furnished ∧
      (∀ t, (tl.recorder.buffers.get t).isSome = tl.host.hasReported t) ∧
      ∀ (view : Timeline Unit) (q : Query), view.furnished.reply q = view.reply q := by
  intro hooks tl tl'
  obtain ⟨hreplies, hend⟩ := (paired_prepared capacities).transcript (plan.coupled_seeing depth) cs
  refine ⟨hreplies, hend.bare_eq_furnished, hend.related.told, hend.related.used, fun view q => ?_⟩
  exact view.reply_furnished q

/-- The callback clears two types of which nothing was reported, if it finds a single mark. -/
example :
    let plan : Plan := fun _ tl =>
      if tl.reply (.size .mark) = .count 1 then
        [.operate (.clear .resource none), .operate (.clear .event (some "a"))]
      else []
    let cs : List Command := [.operate (.create 2 .direct), .operate (.observeMany 0 [.mark]),
      .operate (.report (.mark "a" .zero)), .operate (.observeOne 0 .longTask ⟨true, none⟩)]
    let tl := (new .standard []).proceed (.narrated plan.seeing 1) cs
    let tl' := (prepared .standard []).proceed (.narrated plan.seeing 1) cs
    tl.recorder.buffers.get .resource = none ∧ tl'.host.length = tl.host.length + 2 := by
  decide

end Timeline

end PerfTimeline
