import Mathlib.Data.List.DropRight
import PerfTimeline.Proofs.Timeline.History

/-!
# Event counts follow the history

Of the whole history of a run the event counts only know the names of the input events that were reported by
their parts since the counts were last cleared (`counts_narrate`). They list each of these names once, in
ascending order, with the number of its reports, whatever became of the entries.
-/

namespace PerfTimeline

/-! ### Tallies -/

namespace EventCounts

variable {cs : EventCounts} {name : String} {k : Nat}

/-- The names are listed in ascending order, each with the number of its occurrences in `names`. -/
structure Tallies (names : List String) (cs : EventCounts) : Prop where
  ascending : cs.Ascending
  counted (name : String) (k : Nat) : (name, k) ∈ cs ↔ names.count name = k ∧ 0 < k

def tally (names : List String) : EventCounts := names.foldl (fun cs name => cs.bump name) []

theorem tally_concat (names : List String) (name : String) :
    tally (names ++ [name]) = (tally names).bump name := by
  simp [tally]

theorem positive_bump (h : ∀ c ∈ cs, 0 < c.2) (name : String) : ∀ c ∈ cs.bump name, 0 < c.2 := by
  induction cs with
  | nil => simp [bump]
  | cons d rest ih =>
    obtain ⟨n, k⟩ := d
    obtain ⟨hd, hrest⟩ := List.forall_mem_cons.mp h
    unfold bump
    split
    · exact List.forall_mem_cons.mpr ⟨Nat.succ_pos k, hrest⟩
    · split
      · exact List.forall_mem_cons.mpr ⟨Nat.one_pos, h⟩
      · exact List.forall_mem_cons.mpr ⟨hd, ih hrest⟩

theorem mem_count_of_pos (h : 0 < cs.count name) : (name, cs.count name) ∈ cs := by
  induction cs with
  | nil => exact absurd h (Nat.lt_irrefl 0)
  | cons d rest ih =>
    obtain ⟨n, k⟩ := d
    by_cases hn : name = n
    · simp [count, hn]
    · simp only [count, hn, if_false] at h ⊢
      exact List.mem_cons_of_mem _ (ih h)

theorem count_of_mem (hcs : cs.Ascending) (h : (name, k) ∈ cs) : cs.count name = k := by
  unfold Ascending at hcs
  induction cs with
  | nil => exact absurd h List.not_mem_nil
  | cons d rest ih =>
    obtain ⟨hfirst, hrest⟩ := List.pairwise_cons.mp hcs
    rcases List.mem_cons.mp h with rfl | hmem
    · simp [count]
    · have hne : name ≠ d.1 := fun hn => String.lt_irrefl d.1 (hn ▸ hfirst (name, k) hmem)
      simp only [count, hne, if_false]
      exact ih hrest hmem

/-- The names of a tally ascend, each stands at least once, and each is counted as often as it stands. -/
theorem tallies_tally (names : List String) : Tallies names (tally names) := by
  have hall : (tally names).Ascending ∧ (∀ c ∈ tally names, 0 < c.2) ∧
      ∀ name, (tally names).count name = names.count name := by
    induction names using List.reverseRecOn with
    | nil => exact ⟨List.Pairwise.nil, nofun, fun _ => rfl⟩
    | append_singleton names n ih =>
      obtain ⟨hascending, hpositive, hcount⟩ := ih
      rw [tally_concat]
      refine ⟨ascending_bump hascending n, positive_bump hpositive n, fun name => ?_⟩
      by_cases hn : name = n
      · subst hn
        rw [count_bump_self hascending, hcount]
        simp
      · rw [count_bump_of_ne hn, hcount]
        simp [List.count_append, Ne.symm hn]
  obtain ⟨hascending, hpositive, hcount⟩ := hall
  refine ⟨hascending, fun name k => ⟨fun hmem => ?_, ?_⟩⟩
  · exact ⟨(hcount name).symm.trans (count_of_mem hascending hmem), hpositive _ hmem⟩
  · rintro ⟨hk, hpos⟩
    rw [← hk, ← hcount] at hpos ⊢
    exact mem_count_of_pos hpos

example : tally ["click", "key", "click"] = [("click", 2), ("key", 1)] := by decide

end EventCounts

/-! ### Which operations count -/

namespace Operation

/-- The name that an operation counts. -/
def counted? : Operation → Option String
  | reportEvent name .. => some name
  | _ => none

def clearsCounts : Operation → Bool
  | clearCounts => true
  | _ => false

/-- The names counted since the counts were last cleared. -/
def countedIn (ops : List Operation) : List String :=
  (ops.rtakeWhile (!·.clearsCounts)).filterMap counted?

theorem countedIn_concat (ops : List Operation) (op : Operation) :
    countedIn (ops ++ [op]) = if op.clearsCounts then [] else countedIn ops ++ op.counted?.toList := by
  unfold countedIn
  cases hop : op.clearsCounts with
  | true => rw [List.rtakeWhile_concat_neg _ _ op (by simp [hop])]; rfl
  | false =>
    rw [List.rtakeWhile_concat_pos _ _ op (by simp [hop]), List.filterMap_append]
    cases hname : op.counted? <;> simp [hname]

theorem counts_onRecorder (op : Operation) (r : Recorder) :
    (op.onRecorder r).counts =
      if op.clearsCounts then [] else op.counted?.elim r.counts r.counts.bump := by
  cases op with
  | clear t name => exact r.counts_clear t name
  | clearAll => exact r.counts_clearAll
  | _ => rfl

end Operation

namespace Timeline

/-- The counts are those of the names in the history. -/
def Tallying (tl : Timeline Narrative) : Prop :=
  EventCounts.Tallies (Operation.countedIn tl.host.operations) tl.recorder.counts

theorem kept_tally : Kept fun tl =>
    tl.recorder.counts = EventCounts.tally (Operation.countedIn tl.host.operations) := by
  refine .of_history (P := fun r ops => r.counts = EventCounts.tally (Operation.countedIn ops)) ?_
  intro r ops op h
  rw [Operation.counts_onRecorder, Operation.countedIn_concat, h]
  split
  · rfl
  · cases op.counted? with
    | none => rw [Option.elim_none, Option.toList_none, List.append_nil]
    | some name => rw [Option.elim_some, Option.toList_some, EventCounts.tally_concat]

variable {ε : Type} {hooks : Hooks ε}

/-- An operation that neither counts nor clears the counts leaves them alone, unless its callbacks do not. -/
theorem counts_perform {tl : Timeline ε} {op : Operation} (hcounted : op.counted? = none)
    (hclears : op.clearsCounts = false) (hkeeps : hooks.Keeps (·.counts = tl.recorder.counts)) :
    (tl.perform hooks op).1.recorder.counts = tl.recorder.counts := by
  refine keeps_perform hkeeps op ?_
  show (op.onRecorder tl.recorder).counts = tl.recorder.counts
  rw [Operation.counts_onRecorder, hcounted, hclears]
  rfl

/-- Wherever a deed begins or ends, and in the end, the counts are those of the input events that were reported
by their parts since the counts were last cleared. No other operation changes them, whatever the capacities:
nothing comes of evictions, removals and resets, of reports of entries that were made before, and of what is
done to observers. -/
theorem counts_narrate (plan : Plan) (depth : Nat) (ds : List Deed) (capacities : Capacities) :
    let tl := (new capacities []).narrate (.narrated plan depth) ds
    (Tallying tl ∧ tl.host.Throughout Tallying) ∧
      ∀ {ε : Type} (hooks : Hooks ε) (tl : Timeline ε) (op : Operation), op.counted? = none →
        op.clearsCounts = false → hooks.Keeps (·.counts = tl.recorder.counts) →
          (tl.perform hooks op).1.recorder.counts = tl.recorder.counts := by
  obtain ⟨hend, hall⟩ := kept_tally.narrate plan depth ds capacities rfl
  have tallying {tl : Timeline Narrative}
      (h : tl.recorder.counts = EventCounts.tally (Operation.countedIn tl.host.operations)) : Tallying tl := by
    rw [Tallying, h]
    exact EventCounts.tallies_tally _
  refine ⟨⟨tallying hend, fun past m rest view hsplit hview => ?_⟩, ?_⟩
  · exact tallying (hall past m rest view hsplit hview)
  · intro ε hooks tl op hcounted hclears hkeeps
    exact counts_perform hcounted hclears hkeeps

/-- No event is kept. The callback reports one that is counted, too; one that was made before is not. -/
theorem counts_narrate_from_a_callback :
    let timing : EventTiming := ⟨.zero, .zero, 0⟩
    let plan : Plan := fun _ _ => [.operate (.reportEvent "key" .zero .zero timing), .operate .clearAll]
    let ds : List Deed := [.operate (.reportEvent "tap" .zero .zero timing), .operate .clearCounts,
      .operate (.create 2 .direct), .operate (.observeMany 0 [.event]),
      .operate (.reportEvent "tap" .zero .zero timing), .operate (.report (.event "key" .zero .zero timing))]
    let tl := (new (.const (some 0)) []).narrate (.narrated plan 1) ds
    Tallying tl ∧ tl.recorder.counts = [("key", 1), ("tap", 1)] ∧ tl.recorder.size .event = 0 ∧
      (tl.perform .scribe .clearAll).1.recorder.counts = tl.recorder.counts := by
  intro timing plan ds tl
  obtain ⟨htallying, hunchanged⟩ := counts_narrate plan 1 ds (.const (some 0))
  have hkeeps : Hooks.scribe.Keeps (·.counts = tl.recorder.counts) := fun _ _ h => h
  exact ⟨htallying.1, by decide, by decide, hunchanged .scribe tl .clearAll rfl rfl hkeeps⟩

end Timeline

end PerfTimeline
