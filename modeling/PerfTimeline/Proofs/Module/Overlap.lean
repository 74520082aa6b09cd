import PerfTimeline.Proofs.Module.Measuring

/-!
# Where both ways to measure agree

A measure of options lets times go before marks, and a measure of arguments lets marks go before times. Where
at most one start and at most one end are given there is nothing to choose between, and the two differ only in
what they take for an end that is not given: one takes the time now, the other does so if the end it has is
before the start. So the arguments that say what the options say give the same measure, or fail the same way.
-/

namespace PerfTimeline

namespace MeasureOptions

/-- The arguments with an end of `finish`, and with the time origin for a start that is not given. -/
def given (m : MeasureOptions) (finish : TimeStamp) : MeasureArguments :=
  ⟨m.startTime.getD .zero, finish, m.duration, m.startMark, m.finishMark⟩

/-- At most one start and at most one end are given. -/
structure Unambiguous (m : MeasureOptions) : Prop where
  start : m.startTime = none ∨ m.startMark = none
  time : m.finishTime = none ∨ m.duration = none ∧ m.finishMark = none
  mark : m.duration = none ∨ m.finishMark = none

/-- What a caller has to give for the end of a measure from `start`: the end itself, which is not before the
start, or any time before the start if the options have no end time. -/
def Defaults (m : MeasureOptions) (start finish : TimeStamp) : Prop :=
  match m.finishTime with
  | some t => finish = t ∧ ¬t < start
  | none => finish < start

variable {m : MeasureOptions} {r : Recorder} {start : TimeStamp}

theorem startsAt_of_start (h : m.start r = .ok start) : m.StartsAt r start := by
  have hresolves := m.start_resolves r
  rw [h] at hresolves
  cases hresolves with
  | found ht => exact ht

/-- Marks and times do not compete for the start. -/
theorem start_given (h : m.Unambiguous) (r : Recorder) (finish : TimeStamp) :
    (m.given finish).start r = m.start r := by
  unfold MeasureArguments.start start given
  rcases h.start with ht | hmark
  · rw [ht]
    cases m.startMark <;> rfl
  · rw [hmark]
    cases m.startTime <;> rfl

/-- Nor do they for the end, and both take the time now if none is given. -/
theorem finish_given (h : m.Unambiguous) (r : Recorder) (now : TimeStamp) {finish : TimeStamp}
    (hfinish : m.Defaults start finish) : (m.given finish).finish r now start = m.finish r now start := by
  unfold MeasureArguments.finish MeasureOptions.finish given
  unfold Defaults at hfinish
  cases ht : m.finishTime with
  | some t =>
    rw [ht] at hfinish
    obtain ⟨rfl, hlate⟩ := hfinish
    obtain ⟨hd, hmark⟩ := h.time.resolve_left (by rw [ht]; nofun)
    rw [hd, hmark]
    dsimp only
    rw [if_neg hlate]
  | none =>
    rw [ht] at hfinish
    cases hd : m.duration with
    | some d =>
      rw [h.mark.resolve_left (by rw [hd]; nofun)]
    | none =>
      cases m.finishMark with
      | some name => rfl
      | none =>
        dsimp only
        rw [if_pos hfinish]

/-- Either both settle the same interval or both miss the same mark. -/
theorem interval_given (h : m.Unambiguous) (r : Recorder) (now : TimeStamp) {finish : TimeStamp}
    (hfinish : ∀ start, m.StartsAt r start → m.Defaults start finish) :
    (m.given finish).interval r now = m.interval r now := by
  unfold MeasureArguments.interval interval
  rw [start_given h]
  cases hstart : m.start r with
  | error e => rfl
  | ok start =>
    have hdefaults := hfinish start (startsAt_of_start hstart)
    show ((m.given finish).finish r now start).bind _ = (m.finish r now start).bind _
    rw [finish_given h r now hdefaults]

end MeasureOptions

namespace Host.Session

/-- Arguments that say what the options say make a call do the same: it answers the same, with the same error if
a mark is missing, and leaves the same session behind. If the mark for the start is missing the options
start nowhere, and then it does not matter what is given for the end. -/
theorem measure_agrees (hooks : Hooks Application) (s : Session) (index : Nat) (name : String)
    {options : MeasureOptions} (h : options.Unambiguous) {finish : TimeStamp}
    (hfinish : ∀ start, options.StartsAt s.recorder start → options.Defaults start finish) :
    s.perform hooks (.onModule index (.measureGiven name (options.given finish))) =
      s.perform hooks (.onModule index (.measure name options)) := by
  simp only [perform, withModule]
  cases s.host.modules[index]? with
  | none => rfl
  | some m =>
    have hinterval := MeasureOptions.interval_given h s.recorder m.now hfinish
    have hmeasure : m.measureGiven hooks name (options.given finish) s.retain =
        m.measure hooks name options s.retain :=
      congrArg (Except.map fun i => Module.measureInterval hooks name i s.retain) hinterval
    dsimp only [moduleCall]
    rw [hmeasure]

/-- A measure without an end, from a mark that is stored after the time origin or from one that is not stored. -/
theorem measure_agrees_from_marks :
    let hooks := Host.hooks false 0
    let s : Session := ((start {}).reportMark hooks "a" ⟨5.0⟩).1
    let options : MeasureOptions := { startMark := some "a" }
    let missing : MeasureOptions := { startMark := some "b" }
    options.Unambiguous ∧
      (∀ start, options.StartsAt s.recorder start → options.Defaults start .zero) ∧
      s.perform hooks (.onModule 0 (.measureGiven "m" (options.given .zero))) =
        s.perform hooks (.onModule 0 (.measure "m" options)) ∧
      (s.perform hooks (.onModule 0 (.measure "m" options))).1.recorder.size .measure = 1 ∧
      s.perform hooks (.onModule 0 (.measureGiven "m" (missing.given ⟨9.0⟩))) =
        s.perform hooks (.onModule 0 (.measure "m" missing)) := by
  intro hooks s options missing
  have hone : options.Unambiguous := ⟨.inl rfl, .inl rfl, .inl rfl⟩
  have hmissing : missing.Unambiguous := ⟨.inl rfl, .inl rfl, .inl rfl⟩
  have hdefaults : ∀ start, options.StartsAt s.recorder start → options.Defaults start .zero := by
    intro start hstart
    cases hstart with
    | time ht => cases ht
    | origin _ hmark => cases hmark
    | @mark _ t _ _ hmarked =>
      obtain ⟨before, e, after, hes, -, rfl, -⟩ := hmarked
      have hlater : ∀ x ∈ (s.recorder.buffer .mark).entries, TimeStamp.zero < x.start := by decide +kernel
      exact hlater e (by rw [hes]; exact List.mem_append_right _ List.mem_cons_self)
  have hnowhere : ∀ start, missing.StartsAt s.recorder start → missing.Defaults start ⟨9.0⟩ := by
    intro start hstart
    cases hstart with
    | time ht => cases ht
    | origin _ hmark => cases hmark
    | @mark name t _ hmark hmarked =>
      have hb : ¬s.recorder.HasMark "b" := by decide
      obtain rfl := Option.some.inj hmark
      exact absurd (Recorder.hasMark_of_markedAt hmarked) hb
  exact ⟨hone, hdefaults, measure_agrees hooks s 0 "m" hone hdefaults, by decide +kernel,
    measure_agrees hooks s 0 "m" hmissing hnowhere⟩

end Host.Session

end PerfTimeline
