import Mathlib.Data.List.Induction
import PerfTimeline.Proofs.Timeline.Accounting
import PerfTimeline.Proofs.Timeline.History

/-!
# Looking marks up

A mark is looked up from the end of the buffer of marks, while the buffer gives up entries at its front and
removals take them from anywhere. By the history of a run a mark stands when it is the last of its name that
was reported and nothing has removed it since. A lookup finds the standing mark or none, never an older one,
and a mark that stands is lost only to as many later marks as the buffer has room for (`recalls_narrate`).
-/

namespace PerfTimeline

/-! ### What a buffer remembers of a name -/

namespace Buffer

variable {b : Buffer} {name : String} {t : TimeStamp} {n : Nat} {e : Entry}

/-- No entry of that name is held. -/
def Lacks (b : Buffer) (name : String) : Prop := ∀ x ∈ b.entries, x.name ≠ name

/-- Of the entries of that name the last starts at `t`, and at most `n` entries are behind it. -/
def HoldsLast (b : Buffer) (name : String) (t : TimeStamp) (n : Nat) : Prop :=
  ∃ before e after, b.entries = before ++ e :: after ∧ e.name = name ∧ e.start = t ∧
    (∀ x ∈ after, x.name ≠ name) ∧ after.length ≤ n

/-- An entry of that name that starts at `t` arrived, and `n` entries of other names after it: it is the last
of its name, or they have displaced it, and with it all that were older. -/
def Remembers (b : Buffer) (name : String) (t : TimeStamp) (n : Nat) : Prop :=
  b.HoldsLast name t n ∨ b.Lacks name ∧ ∃ c, b.capacity = some c ∧ c ≤ n

theorem Lacks.append (h : b.Lacks name) (he : e.name ≠ name) : (b.append e).1.Lacks name := by
  intro x hx
  rcases mem_append hx with hx | rfl
  · exact h x hx
  · exact he

theorem Lacks.clear (h : b.Lacks name) (names : Option String) : (b.clear names).Lacks name :=
  fun x hx => h x (mem_clear.mp hx).1

/-- After a removal of all entries, or of those of the name, none is left. -/
theorem lacks_clear (b : Buffer) {names : Option String} (h : ∀ m, names = some m → m = name) :
    (b.clear names).Lacks name := by
  intro x hx hname
  have hkept := (mem_clear.mp hx).2
  cases names with
  | none => cases hkept
  | some m =>
    obtain rfl := h m rfl
    simp [Entry.isNamed, hname] at hkept

theorem HoldsLast.clear (h : b.HoldsLast name t n) {m : String} (hm : m ≠ name) :
    (b.clear (some m)).HoldsLast name t n := by
  obtain ⟨before, e, after, hes, hname, ht, hafter, hn⟩ := h
  refine ⟨before.filter (!·.isNamed (some m)), e, after.filter (!·.isNamed (some m)), ?_, hname, ht, ?_, ?_⟩
  · have hkept : e.isNamed (some m) = false := by simp [Entry.isNamed, hname, hm.symm]
    show b.entries.filter _ = _
    rw [hes, List.filter_append, List.filter_cons, hkept]
    rfl
  · exact fun x hx => hafter x (List.mem_filter.mp hx).1
  · exact Nat.le_trans (List.length_filter_le _ _) hn

theorem Remembers.clear (h : b.Remembers name t n) {m : String} (hm : m ≠ name) :
    (b.clear (some m)).Remembers name t n :=
  h.imp (·.clear hm) fun ⟨hlacks, hfull⟩ => ⟨hlacks.clear _, hfull⟩

/-- An entry that arrives is the last of its name, unless there is no room at all. -/
theorem remembers_append (h : b.Fits) (e : Entry) : (b.append e).1.Remembers e.name e.start 0 := by
  have hlast {older : List Entry} (hes : (b.append e).1.entries = older ++ [e]) :
      (b.append e).1.HoldsLast e.name e.start 0 :=
    ⟨older, e, [], hes, rfl, rfl, fun x hx => absurd hx List.not_mem_nil, Nat.le_refl 0⟩
  by_cases h0 : b.capacity = some 0
  · refine .inr ⟨fun x hx => ?_, 0, (capacity_append b e).trans h0, Nat.le_refl 0⟩
    rw [entries_append_of_zero h0, h.entries_of_zero h0] at hx
    exact absurd hx List.not_mem_nil
  · exact .inl (hlast (entries_append h0 e))

theorem Remembers.append (h : b.Remembers name t n) (hfits : b.Fits) (he : e.name ≠ name) :
    (b.append e).1.Remembers name t (n + 1) := by
  rcases h with ⟨before, x, after, hes, hname, ht, hafter, hn⟩ | ⟨hlacks, c, hc, hcn⟩
  · have hbehind : ∀ y ∈ after ++ [e], y.name ≠ name :=
      List.forall_mem_append.mpr ⟨hafter, List.forall_mem_singleton.mpr he⟩
    have hlength : (after ++ [e]).length ≤ n + 1 := by
      rw [List.length_append]
      exact Nat.add_le_add_right hn 1
    rcases append_cases hfits e with ⟨h0, -⟩ | ⟨-, happend⟩ | ⟨gone, rest, hfull, hgone, happend⟩
    · have hnone := hfits.entries_of_zero h0
      rw [hes] at hnone
      exact absurd hnone (List.append_ne_nil_of_right_ne_nil _ nofun)
    · left
      refine ⟨before, x, after ++ [e], ?_, hname, ht, hbehind, hlength⟩
      rw [happend, hes]
      exact List.append_assoc ..
    · rw [hes] at hgone
      cases before with
      | nil =>
        -- The entry itself goes: the buffer is full of what came after it.
        obtain ⟨-, rfl⟩ := List.cons.inj hgone
        refine .inr ⟨?_, b.size, (capacity_append b e).trans hfull, ?_⟩
        · rw [Lacks, happend]
          exact hbehind
        · rw [size, hes]
          exact Nat.add_le_add_right hn 1
      | cons first before =>
        obtain ⟨-, rfl⟩ := List.cons.inj hgone
        refine .inl ⟨before, x, after ++ [e], ?_, hname, ht, hbehind, hlength⟩
        rw [happend]
        exact List.append_assoc ..
  · exact .inr ⟨hlacks.append he, c, (capacity_append b e).trans hc, Nat.le_succ_of_le hcn⟩

end Buffer

/-! ### Marks that stand -/

namespace Operation

/-- The mark that an operation reports, before it is stored. -/
def mark? (op : Operation) : Option Entry := op.reported?.filter (·.entryType = .mark)

/-- Whether an operation removes the stored marks of that name. -/
def removesMarks (name : String) : Operation → Bool
  | clear .mark none => true
  | clear .mark (some m) => m == name
  | clearAll => true
  | _ => false

/-- What an operation does to the buffer of marks. -/
theorem changeOn_mark (n : Nat) (op : Operation) :
    (∃ e, op.mark? = some e ∧ op.changeOn .mark n = some (.append (e.withSequence n)) ∧
      ∀ name, op.removesMarks name = false) ∨
    (op.mark? = none ∧ ∃ names, op.changeOn .mark n = some (.clear names) ∧
      ∀ name, op.removesMarks name = true ↔ ∀ m, names = some m → m = name) ∨
    (op.mark? = none ∧ (∀ name, op.removesMarks name = false) ∧
      (op.changeOn .mark n = none ∨ op.changeOn .mark n = some .resetDropped)) := by
  cases op with
  | report e =>
    by_cases he : e.entryType = .mark
    · exact .inl ⟨e, by simp [mark?, reported?, he], by simp [changeOn, he], fun _ => rfl⟩
    · exact .inr (.inr ⟨by simp [mark?, reported?, he], fun _ => rfl, .inl (by simp [changeOn, he])⟩)
  | clear t names =>
    by_cases ht : t = .mark
    · subst ht
      refine .inr (.inl ⟨rfl, names, rfl, fun name => ?_⟩)
      cases names <;> simp [removesMarks]
    · refine .inr (.inr ⟨rfl, fun name => ?_, .inl (if_neg ht)⟩)
      cases t <;> first | rfl | exact absurd rfl ht
  | clearAll =>
    refine .inr (.inl ⟨rfl, none, rfl, fun name => ?_⟩)
    simp [removesMarks]
  | resetDropped => exact .inr (.inr ⟨rfl, fun _ => rfl, .inr rfl⟩)
  | _ => exact .inr (.inr ⟨rfl, fun _ => rfl, .inl rfl⟩)

end Operation

/-- By the history `ops` the mark `e` is the last of that name that was reported, and nothing has removed it
since: `later` is what was done after it. -/
structure Standing (name : String) (ops : List Operation) (e : Entry) (later : List Operation) : Prop where
  reported : ∃ earlier op, ops = earlier ++ op :: later ∧ op.mark? = some e
  named : e.name = name
  last : ∀ op ∈ later, ∀ x, op.mark? = some x → x.name ≠ name
  kept : ∀ op ∈ later, op.removesMarks name = false

/-- The number of marks that some operations report. -/
def countMarks (ops : List Operation) : Nat := ops.countP (·.mark?.isSome)

section Standing

variable {name : String} {ops later : List Operation} {op : Operation} {e : Entry}

theorem standing_of_mark? (h : op.mark? = some e) (ops : List Operation) :
    Standing e.name (ops ++ [op]) e [] :=
  ⟨⟨ops, op, rfl, h⟩, rfl, fun _ hx => absurd hx List.not_mem_nil, fun _ hx => absurd hx List.not_mem_nil⟩

theorem Standing.concat (h : Standing name ops e later) (hmark : ∀ x, op.mark? = some x → x.name ≠ name)
    (hremoves : op.removesMarks name = false) : Standing name (ops ++ [op]) e (later ++ [op]) := by
  obtain ⟨⟨earlier, first, rfl, hfirst⟩, hnamed, hlast, hkept⟩ := h
  refine ⟨⟨earlier, first, by simp, hfirst⟩, hnamed, ?_, ?_⟩
  · exact List.forall_mem_append.mpr ⟨hlast, List.forall_mem_singleton.mpr hmark⟩
  · exact List.forall_mem_append.mpr ⟨hkept, List.forall_mem_singleton.mpr hremoves⟩

/-- A mark that stands was reported just now, or stood before and was left alone. -/
theorem Standing.concat_cases (h : Standing name (ops ++ [op]) e later) :
    (op.mark? = some e ∧ e.name = name ∧ later = []) ∨
    (∀ x, op.mark? = some x → x.name ≠ name) ∧ op.removesMarks name = false ∧
      ∃ before, later = before ++ [op] ∧ Standing name ops e before := by
  obtain ⟨⟨earlier, first, hops, hfirst⟩, hnamed, hlast, hkept⟩ := h
  rcases List.eq_nil_or_concat later with rfl | ⟨before, last, rfl⟩
  · obtain ⟨-, hop⟩ := List.append_inj' hops rfl
    obtain rfl := List.singleton_inj.mp hop
    exact .inl ⟨hfirst, hnamed, rfl⟩
  · rw [List.concat_eq_append] at hops hlast hkept
    rw [← List.cons_append, ← List.append_assoc] at hops
    obtain ⟨rfl, hop⟩ := List.append_inj' hops rfl
    obtain rfl := List.singleton_inj.mp hop
    obtain ⟨hlast, hmark⟩ := List.forall_mem_append.mp hlast
    obtain ⟨hkept, hremoves⟩ := List.forall_mem_append.mp hkept
    refine .inr ⟨hmark op List.mem_cons_self, hremoves op List.mem_cons_self, before, ?_, ?_⟩
    · exact List.concat_eq_append
    · exact ⟨⟨earlier, first, rfl, hfirst⟩, hnamed, hlast, hkept⟩

theorem not_standing_nil : ¬Standing name [] e later := by
  rintro ⟨⟨earlier, first, hops, -⟩, -, -, -⟩
  exact List.append_ne_nil_of_right_ne_nil _ (List.cons_ne_nil _ _) hops.symm

/-- At most one mark of a name stands. -/
theorem Standing.unique (h : Standing name ops e later) {e' : Entry} {later' : List Operation}
    (h' : Standing name ops e' later') : e' = e ∧ later' = later := by
  induction ops using List.reverseRecOn generalizing later later' with
  | nil => exact absurd h not_standing_nil
  | append_singleton ops op ih =>
    rcases h.concat_cases with ⟨hmark, hname, rfl⟩ | ⟨hmark, -, before, rfl, hbefore⟩
    · rcases h'.concat_cases with ⟨hmark', -, rfl⟩ | ⟨hother, -⟩
      · exact ⟨Option.some.inj (hmark'.symm.trans hmark), rfl⟩
      · exact absurd hname (hother e hmark)
    · rcases h'.concat_cases with ⟨hmark', hname', -⟩ | ⟨-, -, before', rfl, hbefore'⟩
      · exact absurd hname' (hmark e' hmark')
      · obtain ⟨rfl, rfl⟩ := ih hbefore hbefore'
        exact ⟨rfl, rfl⟩

theorem countMarks_concat (ops : List Operation) (op : Operation) :
    countMarks (ops ++ [op]) = countMarks ops + if op.mark?.isSome then 1 else 0 := by
  simp [countMarks, List.countP_append, List.countP_singleton]

end Standing

/-! ### The buffer of marks along a history -/

/-- What the buffer of marks remembers of a name after some operations: the mark that stands, if one does. -/
inductive Buffer.Follows (b : Buffer) (name : String) (ops : List Operation) : Prop where
  | standing {e : Entry} {later : List Operation} (h : Standing name ops e later)
      (hb : b.Remembers name e.start (countMarks later))
  | nothing (h : ∀ e later, ¬Standing name ops e later) (hb : b.Lacks name)

/-- An operation that is no mark of the name and removes none changes nothing about which mark stands. -/
theorem Buffer.Follows.pass {b b' : Buffer} {name : String} {ops : List Operation} {op : Operation}
    (h : b.Follows name ops) (hmark : ∀ x, op.mark? = some x → x.name ≠ name)
    (hremoves : op.removesMarks name = false)
    (hremembers : ∀ t n, b.Remembers name t n → b'.Remembers name t (n + if op.mark?.isSome then 1 else 0))
    (hlacks : b.Lacks name → b'.Lacks name) : b'.Follows name (ops ++ [op]) := by
  cases h with
  | @standing e later hstanding hb =>
    refine .standing (hstanding.concat hmark hremoves) ?_
    rw [countMarks_concat]
    exact hremembers _ _ hb
  | nothing hnone hb =>
    refine .nothing (fun e later hstanding => ?_) (hlacks hb)
    rcases hstanding.concat_cases with ⟨hop, hname, -⟩ | ⟨-, -, before, -, hbefore⟩
    · exact hmark e hop hname
    · exact hnone e before hbefore

theorem Buffer.Follows.onRecorder {r : Recorder} {name : String} {ops : List Operation}
    (h : (r.buffer .mark).Follows name ops) (hfits : (r.buffer .mark).Fits) (op : Operation) :
    ((op.onRecorder r).buffer .mark).Follows name (ops ++ [op]) := by
  rw [Recorder.buffer_onRecorder]
  rcases op.changeOn_mark (r.sequence + 1) with
    ⟨e, hmark, hchange, hremoves⟩ | ⟨hmark, names, hchange, hremoves⟩ | ⟨hmark, hremoves, hchange⟩
  · -- a mark
    rw [hchange]
    by_cases hname : e.name = name
    · subst hname
      exact .standing (standing_of_mark? hmark ops) (Buffer.remembers_append hfits (e.withSequence _))
    · have hother : ∀ x, op.mark? = some x → x.name ≠ name := by
        intro x hx
        obtain rfl := Option.some.inj (hmark.symm.trans hx)
        exact hname
      refine h.pass hother (hremoves name) (fun t n hb => ?_) (·.append hname)
      rw [hmark]
      exact hb.append hfits hname
  · -- a removal
    rw [hchange]
    have hnone : ∀ x, op.mark? = some x → x.name ≠ name := fun x hx => nomatch hmark.symm.trans hx
    by_cases hall : ∀ m, names = some m → m = name
    · refine .nothing (fun e later hstanding => ?_) (Buffer.lacks_clear _ hall)
      rcases hstanding.concat_cases with ⟨hop, -, -⟩ | ⟨-, hkeeps, -⟩
      · cases hmark.symm.trans hop
      · exact Bool.false_ne_true (hkeeps.symm.trans ((hremoves name).mpr hall))
    · have hkeeps : op.removesMarks name = false := Bool.eq_false_iff.mpr (mt (hremoves name).mp hall)
      cases names with
      | none => exact absurd (fun m hm => nomatch hm) hall
      | some m =>
        have hm : m ≠ name := fun hm => hall fun m' hm' => Option.some.inj hm' ▸ hm
        refine h.pass hnone hkeeps (fun t n hb => ?_) (·.clear _)
        rw [hmark]
        exact hb.clear hm
  · -- anything else
    have hnone : ∀ x, op.mark? = some x → x.name ≠ name := fun x hx => nomatch hmark.symm.trans hx
    refine h.pass hnone (hremoves name) (fun t n hb => ?_) fun hb => ?_
    · rw [hmark]
      rcases hchange with hchange | hchange <;> rw [hchange] <;> exact hb
    · rcases hchange with hchange | hchange <;> rw [hchange] <;> exact hb

/-! ### Lookups in a run -/

/-- What a lookup of a name has to answer by the history `ops`. -/
structure Recalls (capacity : Capacity) (ops : List Operation) (name : String)
    (answer : Option TimeStamp) : Prop where
  found (t : TimeStamp) (h : answer = some t) : ∃ e later, Standing name ops e later
  /-- It is never an older one. -/
  newest (t : TimeStamp) (e : Entry) (later : List Operation) (h : answer = some t)
    (hstanding : Standing name ops e later) : t = e.start
  /-- A mark that stands is lost only where later ones fill the buffer. -/
  lost (e : Entry) (later : List Operation) (h : answer = none) (hstanding : Standing name ops e later) :
    ∃ c, capacity = some c ∧ c ≤ countMarks later
  unbounded (h : capacity = none) : answer = none ↔ ∀ e later, ¬Standing name ops e later

namespace Recorder

variable {r : Recorder} {name : String}

theorem markTime?_of_holdsLast {t : TimeStamp} {n : Nat} (h : (r.buffer .mark).HoldsLast name t n) :
    r.markTime? name = some t := by
  obtain ⟨before, e, after, hes, hname, ht, hafter, -⟩ := h
  have hfind : (r.buffer .mark).findLast? name = some e := by
    refine List.find?_eq_some_iff_append.mpr ⟨beq_iff_eq.mpr hname, after.reverse, before.reverse, ?_, ?_⟩
    · rw [hes]
      simp
    · intro x hx
      simpa using hafter x (List.mem_reverse.mp hx)
  rw [markTime?_eq, hfind, Option.map_some, ht]

theorem markTime?_of_lacks (h : (r.buffer .mark).Lacks name) : r.markTime? name = none := by
  cases hanswer : r.markTime? name with
  | none => rfl
  | some t =>
    obtain ⟨e, he, hname⟩ := hasMark_of_markedAt (markedAt_of_markTime? hanswer)
    exact absurd hname (h e he)

theorem recalls_of_follows {ops : List Operation} (h : (r.buffer .mark).Follows name ops) :
    Recalls (r.buffer .mark).capacity ops name (r.markTime? name) := by
  cases h with
  | @standing e later hstanding hb =>
    have hfound (t : TimeStamp) (_ : r.markTime? name = some t) : ∃ e later, Standing name ops e later :=
      ⟨e, later, hstanding⟩
    rcases hb with hholds | ⟨hlacks, c, hc, hcount⟩
    · have hanswer := markTime?_of_holdsLast hholds
      refine ⟨hfound, ?_, ?_, fun _ => ⟨?_, ?_⟩⟩
      · intro t e' later' ht hstanding'
        obtain ⟨rfl, -⟩ := hstanding.unique hstanding'
        exact Option.some.inj (ht.symm.trans hanswer)
      · intro e' later' hnone
        cases hanswer.symm.trans hnone
      · intro hnone
        cases hanswer.symm.trans hnone
      · intro hnone
        exact absurd hstanding (hnone e later)
    · have hanswer := markTime?_of_lacks hlacks
      refine ⟨hfound, ?_, ?_, ?_⟩
      · intro t e' later' ht
        cases hanswer.symm.trans ht
      · intro e' later' _ hstanding'
        obtain ⟨-, rfl⟩ := hstanding.unique hstanding'
        exact ⟨c, hc, hcount⟩
      · intro hunbounded
        cases hc.symm.trans hunbounded
  | nothing hnone hb =>
    have hanswer := markTime?_of_lacks hb
    refine ⟨?_, ?_, ?_, fun _ => ⟨fun _ => hnone, fun _ => hanswer⟩⟩
    · intro t ht
      cases hanswer.symm.trans ht
    · intro t e later ht
      cases hanswer.symm.trans ht
    · intro e later _ hstanding
      exact absurd hstanding (hnone e later)

end Recorder

namespace Timeline

/-- By what was told so far, lookups of marks answer as they have to. -/
def Recalling (capacities : Capacities) (tl : Timeline Narrative) : Prop :=
  ∀ name, Recalls (capacities.get .mark) tl.host.operations name (tl.recorder.markTime? name)

/-- Marks are stored as the operations told of say. -/
def Following (capacities : Capacities) (tl : Timeline Narrative) : Prop :=
  tl.recorder.Reachable capacities ∧ ∀ name, (tl.recorder.buffer .mark).Follows name tl.host.operations

variable {capacities : Capacities} {tl : Timeline Narrative}

theorem Following.recalling (h : Following capacities tl) : Recalling capacities tl := by
  intro name
  rw [← h.1.capacity_buffer]
  exact Recorder.recalls_of_follows (h.2 name)

theorem following_new (capacities : Capacities) : Following capacities (new capacities []) := by
  refine ⟨.new, fun name => .nothing (fun e later => not_standing_nil) fun x hx => ?_⟩
  rw [show (new capacities ([] : Narrative)).recorder = .new capacities from rfl, Recorder.entries_new] at hx
  exact absurd hx List.not_mem_nil

theorem kept_following (capacities : Capacities) : Kept (Following capacities) := by
  refine .of_history
    (P := fun r ops => r.Reachable capacities ∧ ∀ name, (r.buffer .mark).Follows name ops) ?_
  intro r ops op h
  exact ⟨h.1.onRecorder op, fun name => (h.2 name).onRecorder (h.1.fits_buffer .mark) op⟩

/-- Whatever is done in a run, by callbacks or otherwise, a lookup never answers with a stale mark, wherever a
deed begins or ends, and in the end. -/
theorem recalls_narrate (plan : Plan) (depth : Nat) (ds : List Deed) (capacities : Capacities) :
    let tl := (new capacities []).narrate (.narrated plan depth) ds
    Recalling capacities tl ∧ tl.host.Throughout (Recalling capacities) := by
  obtain ⟨hend, hall⟩ :=
    (kept_following capacities).narrate plan depth ds capacities (following_new capacities)
  exact ⟨hend.recalling, fun past m rest view hsplit hview => (hall past m rest view hsplit hview).recalling⟩

/-- The mark that was reported last is found, although an older one starts later. Two more marks displace both. -/
example :
    let marks (names : List (String × Float)) : Recorder :=
      names.foldl (fun r x => ((r.append (.mark x.1 ⟨x.2⟩)).1)) (.new (.const (some 2)))
    (marks [("a", 5.0), ("a", 1.0)]).markTime? "a" = some ⟨1.0⟩ ∧
      (marks [("a", 5.0), ("a", 1.0), ("b", 2.0), ("b", 2.0)]).markTime? "a" = none := by
  decide +kernel

end Timeline

end PerfTimeline
