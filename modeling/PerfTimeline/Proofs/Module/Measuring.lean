import PerfTimeline.Host.Session
import PerfTimeline.Proofs.Timeline.Recording

/-!
# Measures and the marks they need

A measure consults a mark for its start or its end only where nothing that takes precedence is given. It fails
if a mark it consults is not stored, and then the whole session is as before. Otherwise it reports a measure
of the interval that the arguments stand for.
-/

namespace PerfTimeline

/-! ### Marks -/

namespace Recorder

/-- A mark of that name is stored. -/
def HasMark (r : Recorder) (name : String) : Prop := ∃ e ∈ (r.buffer .mark).entries, e.name = name

instance (r : Recorder) (name : String) : Decidable (r.HasMark name) :=
  inferInstanceAs (Decidable (∃ e ∈ (r.buffer .mark).entries, e.name = name))

/-- The mark of that name that was stored last starts at `t`. -/
def MarkedAt (r : Recorder) (name : String) (t : TimeStamp) : Prop :=
  ∃ before e after, (r.buffer .mark).entries = before ++ e :: after ∧ e.name = name ∧ e.start = t ∧
    ∀ x ∈ after, x.name ≠ name

theorem markTime?_eq (r : Recorder) (name : String) :
    r.markTime? name = ((r.buffer .mark).findLast? name).map (·.start) := by
  unfold markTime? buffer
  show _ = (((r.buffers.mark).getD _).findLast? name).map (·.start)
  cases r.buffers.mark <;> rfl

theorem markedAt_of_markTime? {r : Recorder} {name : String} {t : TimeStamp}
    (h : r.markTime? name = some t) : r.MarkedAt name t := by
  rw [markTime?_eq, Option.map_eq_some_iff] at h
  obtain ⟨e, hfind, ht⟩ := h
  obtain ⟨hname, later, earlier, hes, hlater⟩ := List.find?_eq_some_iff_append.mp hfind
  have hentries : (r.buffer .mark).entries = earlier.reverse ++ e :: later.reverse := by
    have hreverse := congrArg List.reverse hes
    simpa using hreverse
  refine ⟨earlier.reverse, e, later.reverse, hentries, beq_iff_eq.mp hname, ht, ?_⟩
  intro x hx
  simpa using hlater x (List.mem_reverse.mp hx)

theorem hasMark_of_markedAt {r : Recorder} {name : String} {t : TimeStamp} (h : r.MarkedAt name t) :
    r.HasMark name := by
  obtain ⟨before, e, after, hes, hname, -, -⟩ := h
  exact ⟨e, by rw [hes]; exact List.mem_append_right _ List.mem_cons_self, hname⟩

theorem not_hasMark_of_markTime? {r : Recorder} {name : String} (h : r.markTime? name = none) :
    ¬r.HasMark name := by
  rintro ⟨e, he, hname⟩
  rw [markTime?_eq, Option.map_eq_none_iff] at h
  have hnone := List.find?_eq_none.mp h e (List.mem_reverse.mpr he)
  exact hnone (beq_iff_eq.mpr hname)

end Recorder

/-! ### Resolving -/

/-- A time is found as specified, or the one mark that is missing is named. -/
inductive Resolves (Missing : String → Prop) (At : TimeStamp → Prop) :
    Except TimelineError TimeStamp → Prop where
  | found {t : TimeStamp} (ht : At t) (hnone : ∀ n, ¬Missing n) : Resolves Missing At (.ok t)
  | missing {n : String} (hn : Missing n) (honly : ∀ n', Missing n' → n' = n) :
    Resolves Missing At (.error (.markNotFound n))

theorem Recorder.markTime_resolves {r : Recorder} {name : String} {Missing : String → Prop}
    {At : TimeStamp → Prop} (hmissing : ∀ n, Missing n ↔ name = n ∧ ¬r.HasMark n)
    (hat : ∀ t, r.MarkedAt name t → At t) : Resolves Missing At (r.markTime name) := by
  unfold markTime
  cases h : r.markTime? name with
  | none =>
    have hn := (hmissing name).mpr ⟨rfl, not_hasMark_of_markTime? h⟩
    exact .missing hn fun n' hn' => ((hmissing n').mp hn').1.symm
  | some t =>
    have hmarked := markedAt_of_markTime? h
    refine .found (hat t hmarked) fun n hn => ?_
    obtain ⟨rfl, hnot⟩ := (hmissing n).mp hn
    exact hnot (hasMark_of_markedAt hmarked)

namespace MeasureOptions

/-- The start is left to a mark that is not stored. -/
def MissingStart (m : MeasureOptions) (r : Recorder) (name : String) : Prop :=
  m.startTime = none ∧ m.startMark = some name ∧ ¬r.HasMark name

/-- The end is left to a mark that is not stored. -/
def MissingFinish (m : MeasureOptions) (r : Recorder) (name : String) : Prop :=
  m.finishTime = none ∧ m.duration = none ∧ m.finishMark = some name ∧ ¬r.HasMark name

inductive StartsAt (m : MeasureOptions) (r : Recorder) : TimeStamp → Prop where
  | time {t : TimeStamp} (ht : m.startTime = some t) : StartsAt m r t
  | mark {name : String} {t : TimeStamp} (ht : m.startTime = none) (hmark : m.startMark = some name)
      (hmarked : r.MarkedAt name t) : StartsAt m r t
  | origin (ht : m.startTime = none) (hmark : m.startMark = none) : StartsAt m r .zero

inductive FinishesAt (m : MeasureOptions) (r : Recorder) (now start : TimeStamp) : TimeStamp → Prop where
  | time {t : TimeStamp} (ht : m.finishTime = some t) : FinishesAt m r now start t
  | duration {d : Duration} (ht : m.finishTime = none) (hd : m.duration = some d) :
    FinishesAt m r now start (start + d)
  | mark {name : String} {t : TimeStamp} (ht : m.finishTime = none) (hd : m.duration = none)
      (hmark : m.finishMark = some name) (hmarked : r.MarkedAt name t) : FinishesAt m r now start t
  | now (ht : m.finishTime = none) (hd : m.duration = none) (hmark : m.finishMark = none) :
    FinishesAt m r now start now

theorem start_resolves (m : MeasureOptions) (r : Recorder) :
    Resolves (m.MissingStart r) (m.StartsAt r) (m.start r) := by
  unfold start
  cases ht : m.startTime with
  | some t => exact .found (.time ht) fun n hn => nomatch ht.symm.trans hn.1
  | none =>
    cases hmark : m.startMark with
    | some name =>
      have hmissing (n : String) : m.MissingStart r n ↔ name = n ∧ ¬r.HasMark n := by
        simp [MissingStart, ht, hmark]
      exact Recorder.markTime_resolves hmissing fun t hmarked => .mark ht hmark hmarked
    | none => exact .found (.origin ht hmark) fun n hn => nomatch hmark.symm.trans hn.2.1

theorem finish_resolves (m : MeasureOptions) (r : Recorder) (now start : TimeStamp) :
    Resolves (m.MissingFinish r) (m.FinishesAt r now start) (m.finish r now start) := by
  unfold finish
  cases ht : m.finishTime with
  | some t => exact .found (.time ht) fun n hn => nomatch ht.symm.trans hn.1
  | none =>
    cases hd : m.duration with
    | some d => exact .found (.duration ht hd) fun n hn => nomatch hd.symm.trans hn.2.1
    | none =>
      cases hmark : m.finishMark with
      | some name =>
        have hmissing (n : String) : m.MissingFinish r n ↔ name = n ∧ ¬r.HasMark n := by
          simp [MissingFinish, ht, hd, hmark]
        exact Recorder.markTime_resolves hmissing fun t hmarked => .mark ht hd hmark hmarked
      | none => exact .found (.now ht hd hmark) fun n hn => nomatch hmark.symm.trans hn.2.2.1

end MeasureOptions

namespace MeasureArguments

/-- The mark for the start is not stored. -/
def MissingStart (m : MeasureArguments) (r : Recorder) (name : String) : Prop :=
  m.startMark = some name ∧ ¬r.HasMark name

/-- The mark for the end is not stored. -/
def MissingFinish (m : MeasureArguments) (r : Recorder) (name : String) : Prop :=
  m.finishMark = some name ∧ ¬r.HasMark name

inductive StartsAt (m : MeasureArguments) (r : Recorder) : TimeStamp → Prop where
  | mark {name : String} {t : TimeStamp} (hmark : m.startMark = some name) (hmarked : r.MarkedAt name t) :
    StartsAt m r t
  | time (hmark : m.startMark = none) : StartsAt m r m.startTime

inductive FinishesAt (m : MeasureArguments) (r : Recorder) (now start : TimeStamp) : TimeStamp → Prop where
  | mark {name : String} {t : TimeStamp} (hmark : m.finishMark = some name)
      (hmarked : r.MarkedAt name t) : FinishesAt m r now start t
  | duration {d : Duration} (hmark : m.finishMark = none) (hd : m.duration = some d) :
    FinishesAt m r now start (start + d)
  | now (hmark : m.finishMark = none) (hd : m.duration = none) (hearly : m.finishTime < start) :
    FinishesAt m r now start now
  | time (hmark : m.finishMark = none) (hd : m.duration = none) (hlate : ¬m.finishTime < start) :
    FinishesAt m r now start m.finishTime

theorem start_resolves (m : MeasureArguments) (r : Recorder) :
    Resolves (m.MissingStart r) (m.StartsAt r) (m.start r) := by
  unfold start
  cases hmark : m.startMark with
  | some name =>
    have hmissing (n : String) : m.MissingStart r n ↔ name = n ∧ ¬r.HasMark n := by
      simp [MissingStart, hmark]
    exact Recorder.markTime_resolves hmissing fun t hmarked => .mark hmark hmarked
  | none => exact .found (.time hmark) fun n hn => nomatch hmark.symm.trans hn.1

theorem finish_resolves (m : MeasureArguments) (r : Recorder) (now start : TimeStamp) :
    Resolves (m.MissingFinish r) (m.FinishesAt r now start) (m.finish r now start) := by
  unfold finish
  cases hmark : m.finishMark with
  | some name =>
    have hmissing (n : String) : m.MissingFinish r n ↔ name = n ∧ ¬r.HasMark n := by
      simp [MissingFinish, hmark]
    exact Recorder.markTime_resolves hmissing fun t hmarked => .mark hmark hmarked
  | none =>
    have hnone (n : String) : ¬m.MissingFinish r n := fun hn => nomatch hmark.symm.trans hn.1
    cases hd : m.duration with
    | some d => exact .found (.duration hmark hd) hnone
    | none =>
      dsimp only
      split
      · exact .found (.now hmark hd ‹_›) hnone
      · exact .found (.time hmark hd ‹_›) hnone

end MeasureArguments

/-! ### Measuring -/

namespace Host.Session

variable {hooks : Hooks Application} {s : Session} {name : String}

/-- What becomes of a call for a measure, given which marks are missing and what times its arguments stand
for. -/
structure Measures (hooks : Hooks Application) (s : Session) (name : String)
    (MissingStart MissingFinish : String → Prop) (StartsAt : TimeStamp → Prop)
    (FinishesAt : TimeStamp → TimeStamp → Prop) (result : Session × Outcome) : Prop where
  fails_iff : (∃ e, result.2 = .failed e) ↔ (∃ n, MissingStart n) ∨ ∃ n, MissingFinish n
  /-- The mark for the start comes first, and nothing happens without it. -/
  start_missing : ∀ n, MissingStart n → result = (s, .failed (.rejected (.markNotFound n)))
  finish_missing : (∀ n, ¬MissingStart n) → ∀ n, MissingFinish n →
    result = (s, .failed (.rejected (.markNotFound n)))
  /-- One measure is reported, and the caller is told its interval. -/
  reported : (∀ n, ¬MissingStart n) → (∀ n, ¬MissingFinish n) → ∃ start finish : TimeStamp,
    StartsAt start ∧ FinishesAt start finish ∧
    result = ((s.retain.reportMeasure hooks name start finish).1.release, .span ⟨start, finish - start⟩) ∧
    (hooks.Passive →
      result.1.recorder = (s.recorder.append (.measure name start (finish - start))).1)

/-- A call for a measure of the interval that its arguments stand for, or of none. -/
def measureOf (hooks : Hooks Application) (s : Session) (name : String)
    (interval : Except TimelineError Interval) : Session × Outcome :=
  let (next, outcome) :=
    measured s.retain (interval.map fun i => Module.measureInterval hooks name i s.retain)
  (next.release, outcome)

theorem measureOf_error (hooks : Hooks Application) (s : Session) (name : String) (e : TimelineError) :
    measureOf hooks s name (.error e) = (s, .failed (.rejected e)) := rfl

theorem measureOf_ok (hooks : Hooks Application) (s : Session) (name : String) (i : Interval) :
    measureOf hooks s name (.ok i) =
      ((s.retain.reportMeasure hooks name i.start i.finish).1.release,
        .span ⟨i.start, i.finish - i.start⟩) := rfl

theorem recorder_reportMeasure (h : hooks.Passive) (start finish : TimeStamp) :
    (s.retain.reportMeasure hooks name start finish).1.release.recorder =
      (s.recorder.append (.measure name start (finish - start))).1 := by
  have hkeeps := h.keeps (· = (s.recorder.append (.measure name start (finish - start))).1)
  have hstored : (s.retain.recorder.append (.measure name start (finish - start))).1 =
      (s.recorder.append (.measure name start (finish - start))).1 := rfl
  exact Timeline.keeps_report hkeeps _ hstored

theorem measures_of_resolves {MissingStart MissingFinish : String → Prop} {StartsAt : TimeStamp → Prop}
    {FinishesAt : TimeStamp → TimeStamp → Prop} {start : Except TimelineError TimeStamp}
    {finish : TimeStamp → Except TimelineError TimeStamp} (hstart : Resolves MissingStart StartsAt start)
    (hfinish : ∀ t, Resolves MissingFinish (FinishesAt t) (finish t)) :
    Measures hooks s name MissingStart MissingFinish StartsAt FinishesAt
      (measureOf hooks s name (do
        let start ← start
        let finish ← finish start
        return ⟨start, finish⟩)) := by
  -- The end is resolved only for a start that was found, so the cases nest in that order.
  cases hstart with
  | @missing n hn honly =>
    have hresult := measureOf_error hooks s name (.markNotFound n)
    refine ⟨?_, ?_, ?_, ?_⟩
    · exact ⟨fun _ => .inl ⟨n, hn⟩, fun _ => ⟨_, congrArg Prod.snd hresult⟩⟩
    · intro n' hn'
      rw [honly n' hn']
      exact hresult
    · intro hnone
      exact absurd hn (hnone n)
    · intro hnone
      exact absurd hn (hnone n)
  | @found t ht hnostart =>
    have hfound := hfinish t
    show Measures hooks s name _ _ _ _ (measureOf hooks s name ((finish t).map fun t' => ⟨t, t'⟩))
    generalize finish t = found at hfound
    cases hfound with
    | @missing n hn honly =>
      have hresult := measureOf_error hooks s name (.markNotFound n)
      refine ⟨?_, ?_, ?_, ?_⟩
      · exact ⟨fun _ => .inr ⟨n, hn⟩, fun _ => ⟨_, congrArg Prod.snd hresult⟩⟩
      · intro n' hn'
        exact absurd hn' (hnostart n')
      · intro _ n' hn'
        rw [honly n' hn']
        exact hresult
      · intro _ hnone
        exact absurd hn (hnone n)
    | @found t' ht' hnofinish =>
      have hresult := measureOf_ok hooks s name ⟨t, t'⟩
      refine ⟨⟨?_, ?_⟩, ?_, ?_, ?_⟩
      · rintro ⟨e, he⟩
        exact nomatch he
      · rintro (⟨n, hn⟩ | ⟨n, hn⟩)
        · exact absurd hn (hnostart n)
        · exact absurd hn (hnofinish n)
      · intro n hn
        exact absurd hn (hnostart n)
      · intro _ n hn
        exact absurd hn (hnofinish n)
      · intro _ _
        exact ⟨t, t', ht, ht', hresult, fun h => recorder_reportMeasure h t t'⟩

/-- Both ways to ask for a measure fail exactly if a mark that they consult is not stored. The error names the
mark for the start if that is missing, else the mark for the end, and the session is as it was before the
call. Otherwise one measure is reported, of the interval that the arguments stand for. -/
theorem measure_settled (hooks : Hooks Application) (s : Session) {index : Nat} {m : Module}
    (hm : s.host.modules[index]? = some m) (name : String) (options : MeasureOptions)
    (arguments : MeasureArguments) :
    Measures hooks s name (options.MissingStart s.recorder) (options.MissingFinish s.recorder)
      (options.StartsAt s.recorder) (options.FinishesAt s.recorder m.now)
      (s.perform hooks (.onModule index (.measure name options))) ∧
    Measures hooks s name (arguments.MissingStart s.recorder) (arguments.MissingFinish s.recorder)
      (arguments.StartsAt s.recorder) (arguments.FinishesAt s.recorder m.now)
      (s.perform hooks (.onModule index (.measureGiven name arguments))) := by
  have hcall : s.perform hooks (.onModule index (.measure name options)) =
      measureOf hooks s name (options.interval s.recorder m.now) := by
    simp only [perform, withModule, hm]
    rfl
  have hcallGiven : s.perform hooks (.onModule index (.measureGiven name arguments)) =
      measureOf hooks s name (arguments.interval s.recorder m.now) := by
    simp only [perform, withModule, hm]
    rfl
  rw [hcall, hcallGiven]
  constructor
  · exact measures_of_resolves (options.start_resolves s.recorder)
      (options.finish_resolves s.recorder m.now)
  · exact measures_of_resolves (arguments.start_resolves s.recorder)
      (arguments.finish_resolves s.recorder m.now)

/-- One mark is stored. A measure from it to a mark that is not stored fails; one from it on is reported. -/
theorem measure_settled_one_mark :
    let hooks := Host.hooks false 0
    let s : Session := ((start {}).reportMark hooks "a" .zero).1
    let options : MeasureOptions := { startMark := some "a", finishMark := some "b" }
    let arguments : MeasureArguments :=
      { startTime := .zero, finishTime := .zero, duration := some .zero, startMark := some "a" }
    let failed := s.perform hooks (.onModule 0 (.measure "m" options))
    let given := s.perform hooks (.onModule 0 (.measureGiven "m" arguments))
    s.host.modules[0]? = some ⟨⟨.zero⟩, none, Observer.standardLimit⟩ ∧
      failed = (s, .failed (.rejected (.markNotFound "b"))) ∧
      ∃ start finish : TimeStamp, arguments.StartsAt s.recorder start ∧
        given.2 = .span ⟨start, finish - start⟩ ∧ given.1.recorder.sequence = 2 := by
  intro hooks s options arguments failed given
  have hm : s.host.modules[0]? = some ⟨⟨.zero⟩, none, Observer.standardLimit⟩ := rfl
  have hpassive : hooks.Passive := fun o tl => ⟨tl.host, rfl⟩
  have ha : s.recorder.HasMark "a" := by decide
  have hb : ¬s.recorder.HasMark "b" := by decide
  obtain ⟨hoptions, harguments⟩ := measure_settled hooks s hm "m" options arguments
  refine ⟨hm, hoptions.finish_missing ?_ "b" ⟨rfl, rfl, rfl, hb⟩, ?_⟩
  · rintro n ⟨-, hn, hnot⟩
    obtain rfl := Option.some.inj hn
    exact hnot ha
  · have hstart : ∀ n, ¬arguments.MissingStart s.recorder n := by
      rintro n ⟨hn, hnot⟩
      obtain rfl := Option.some.inj hn
      exact hnot ha
    have hfinish : ∀ n, ¬arguments.MissingFinish s.recorder n := fun n hn => nomatch hn.1
    obtain ⟨t, t', ht, -, hresult, hrecorder⟩ := harguments.reported hstart hfinish
    refine ⟨t, t', ht, congrArg Prod.snd hresult, ?_⟩
    rw [hrecorder hpassive, Recorder.sequence_append]
    rfl

end Host.Session

end PerfTimeline
