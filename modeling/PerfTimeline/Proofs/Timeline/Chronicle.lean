import PerfTimeline.Proofs.Timeline.Recording

/-!
# Chronicles

A callback may operate the timeline in the middle of a report, and callbacks of its own operations may do so
again. A chronicle puts all of this into one line: the operations in the order in which they began, each
with its answer. What an operation does to the recorder it does when it begins, so a chronicle accounts for
the recorder whatever the nesting was (`chronicle_run`).
-/

namespace PerfTimeline

variable {ε : Type}

def Answer.stored? : Answer → Option Entry
  | stored e => some e
  | _ => none

/-- Operations in the order in which they began, each with its answer. -/
abbrev Chronicle := List (Operation × Answer)

namespace Chronicle

/-- The entries reported, as they were given, each with the answer. -/
def reports (c : Chronicle) : List (Entry × Answer) := c.filterMap fun x => x.1.reported?.map (·, x.2)

/-- The entries that the reports returned. -/
def stored (c : Chronicle) : List Entry := c.filterMap (·.2.stored?)

def replay (r : Recorder) (c : Chronicle) : Recorder := c.foldl (fun r x => x.1.onRecorder r) r

/-- A report is answered with the entry as the recorder stores it, and nothing else is. -/
def Attested : Recorder → Chronicle → Prop
  | _, [] => True
  | r, (op, a) :: c =>
    a.stored? = op.reported?.map (fun e => (r.append e).2.1) ∧ Attested (op.onRecorder r) c

theorem replay_append (r : Recorder) (a b : Chronicle) : replay r (a ++ b) = replay (replay r a) b :=
  List.foldl_append

theorem Attested.append {r : Recorder} {a b : Chronicle} (ha : Attested r a)
    (hb : Attested (replay r a) b) : Attested r (a ++ b) := by
  induction a generalizing r with
  | nil => exact hb
  | cons x a ih => exact ⟨ha.1, ih ha.2 hb⟩

end Chronicle

/-- Chronicles of some calls, one after another, lead from one recorder to the other. -/
def Recorder.Leads (Call : Chronicle → Prop) (r r' : Recorder) : Prop :=
  ∃ calls : List Chronicle, (∀ c ∈ calls, Call c) ∧ Chronicle.Attested r calls.flatten ∧
    Chronicle.replay r calls.flatten = r'

section Leads

variable {Call : Chronicle → Prop}

theorem Recorder.Leads.refl (r : Recorder) : r.Leads Call r :=
  ⟨[], fun _ h => absurd h List.not_mem_nil, trivial, rfl⟩

theorem Recorder.Leads.trans {r r' r'' : Recorder} (h : r.Leads Call r') (h' : r'.Leads Call r'') :
    r.Leads Call r'' := by
  obtain ⟨calls, hcalls, hattested, rfl⟩ := h
  obtain ⟨calls', hcalls', hattested', rfl⟩ := h'
  refine ⟨calls ++ calls', List.forall_mem_append.mpr ⟨hcalls, hcalls'⟩, ?_, ?_⟩
  · rw [List.flatten_append]
    exact hattested.append hattested'
  · rw [List.flatten_append]
    exact Chronicle.replay_append r calls.flatten calls'.flatten

end Leads

/-- Whatever callbacks do to the recorder they do by operations, of which there is a chronicle. -/
def Hooks.Operating (Call : Chronicle → Prop) (hooks : Hooks ε) : Prop :=
  ∀ (o : ObserverId) (tl : Timeline ε), tl.recorder.Leads Call (hooks.call o tl).recorder

theorem Hooks.Operating.keeps {Call : Chronicle → Prop} {hooks : Hooks ε} (h : hooks.Operating Call)
    (r : Recorder) : hooks.Keeps (r.Leads Call) := fun o tl ht => ht.trans (h o tl)

namespace Timeline

variable {hooks : Hooks ε} {Call : Chronicle → Prop}

/-- A chronicle of a run has each operation with its answer, and behind it the chronicles of the calls that
were made before the next. -/
inductive Chronicles (Call : Chronicle → Prop) (hooks : Hooks ε) :
    Timeline ε → List Operation → Chronicle → Prop
  | nil (tl : Timeline ε) : Chronicles Call hooks tl [] []
  | cons {tl : Timeline ε} {op : Operation} {ops : List Operation} {calls : List Chronicle}
      {rest : Chronicle} (hcalls : ∀ c ∈ calls, Call c)
      (hrest : Chronicles Call hooks (tl.perform hooks op).1 ops rest) :
      Chronicles Call hooks tl (op :: ops) ((op, (tl.perform hooks op).2) :: (calls.flatten ++ rest))

/-- The answer to a report is settled before any callback is called. -/
theorem stored?_perform (hooks : Hooks ε) (tl : Timeline ε) (op : Operation) :
    (tl.perform hooks op).2.stored? = op.reported?.map fun e => (tl.recorder.append e).2.1 := by
  have onLive (o : ObserverId) {act : Timeline ε → Timeline ε × Answer}
      (hact : (act tl).2.stored? = none) : (tl.onLive o act).2.stored? = none := by
    unfold Timeline.onLive
    split
    · exact hact
    · rfl
  cases op with
  | clone o => exact onLive o rfl
  | observeOne o t options => exact onLive o rfl
  | observeMany o types => exact onLive o rfl
  | take o sorted => exact onLive o rfl
  | disconnect o => exact onLive o rfl
  | push o e => exact onLive o rfl
  | register o => exact onLive o rfl
  | unregister o => exact onLive o rfl
  | _ => rfl

theorem leads_perform (h : hooks.Operating Call) (tl : Timeline ε) (op : Operation) :
    (op.onRecorder tl.recorder).Leads Call (tl.perform hooks op).1.recorder :=
  keeps_perform (h.keeps _) op (.refl _)

/-- A run has a chronicle, and by it the recorder is accounted for. -/
theorem chronicle_run (h : hooks.Operating Call) (tl : Timeline ε) (ops : List Operation) :
    ∃ c, Chronicles Call hooks tl ops c ∧ c.Attested tl.recorder ∧
      c.replay tl.recorder = (tl.run hooks ops).recorder := by
  induction ops generalizing tl with
  | nil => exact ⟨[], .nil tl, trivial, rfl⟩
  | cons op ops ih =>
    obtain ⟨calls, hcalls, hattested, hreplay⟩ := leads_perform h tl op
    obtain ⟨rest, hchronicles, hrest, hend⟩ := ih (tl.perform hooks op).1
    rw [← hreplay] at hrest hend
    refine ⟨_, .cons hcalls hchronicles, ?_, ?_⟩
    · exact ⟨stored?_perform hooks tl op, hattested.append hrest⟩
    · show Chronicle.replay (op.onRecorder tl.recorder) (calls.flatten ++ rest) = _
      rw [Chronicle.replay_append]
      exact hend

end Timeline

/-- The chronicles of single calls when callbacks perform what a plan says, nested at most so deep. -/
def Hooks.Calls (hooks : Hooks ε) (plan : ObserverId → Timeline ε → List Operation) :
    Nat → Chronicle → Prop
  | 0, _ => False
  | depth + 1, c => ∃ o tl,
    Timeline.Chronicles (hooks.Calls plan depth) (hooks.planned plan depth) tl (plan o tl) c

/-- Callbacks that perform operations, nested however deep, do nothing else to the recorder. -/
theorem Hooks.operating_planned (hooks : Hooks ε) (plan : ObserverId → Timeline ε → List Operation)
    (depth : Nat) : (hooks.planned plan depth).Operating (hooks.Calls plan depth) := by
  induction depth with
  | zero => exact fun _ tl => .refl tl.recorder
  | succ depth ih =>
    intro o tl
    obtain ⟨c, hchronicles, hattested, hreplay⟩ := Timeline.chronicle_run ih tl (plan o tl)
    refine ⟨[c], ?_, ?_, ?_⟩
    · intro call hcall
      exact List.mem_singleton.mp hcall ▸ ⟨o, tl, hchronicles⟩
    · rwa [List.flatten_singleton]
    · rwa [List.flatten_singleton]

end PerfTimeline
