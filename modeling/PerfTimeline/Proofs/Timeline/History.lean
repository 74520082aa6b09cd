import PerfTimeline.Proofs.Timeline.Narrative

/-!
# Histories

The history of a run is the list of its operations in the order in which they began, those of callbacks among
them. What an operation does to the recorder it does when it begins, and nothing else gets at the recorder, so
what an operation keeps true of recorder and history is true at every moment of a run (`Kept.of_history`).
-/

namespace PerfTimeline

/-- The operation that begins at this moment. -/
def Moment.operation? : Moment → Option Operation
  | begun (.operate op) _ => some op
  | _ => none

/-- The operations told of, in the order in which they began. -/
def Narrative.operations (n : Narrative) : List Operation := n.filterMap Moment.operation?

namespace Timeline

theorem operations_append (n n' : Narrative) :
    Narrative.operations (n ++ n') = n.operations ++ n'.operations := List.filterMap_append

theorem operations_incidents (incidents : List Incident) :
    Narrative.operations (incidents.map .incident) = [] := by
  simp [Narrative.operations, Moment.operation?]

end Timeline

theorem Kept.of_history {P : Recorder → List Operation → Prop}
    (step : ∀ {r : Recorder} {ops : List Operation} (op : Operation),
      P r ops → P (op.onRecorder r) (ops ++ [op])) :
    Kept fun tl => P tl.recorder tl.host.operations := by
  -- What is told without an operation beginning is not in the history.
  have told {r : Recorder} {n ms : Narrative} (h : P r n.operations) (hms : ms.operations = []) :
      P r (Narrative.operations (n ++ ms)) := by
    rw [Timeline.operations_append, hms, List.append_nil]
    exact h
  refine .of_recorder_and_host ?_ ?_ ?_ ?_
  · intro tl tl' h hrecorder hhost
    rw [hrecorder, hhost]
    exact h
  · intro tl d h
    unfold Timeline.enter
    rw [Timeline.record_scribe]
    refine told ?_ (Timeline.operations_incidents _)
    cases d with
    | offer os e => exact told h rfl
    | operate op =>
      show P (op.onRecorder tl.recorder) (Narrative.operations (tl.host ++ [_]))
      rw [Timeline.operations_append]
      exact step op h
  · intro tl o s next h _ _
    rw [Timeline.react_scribe]
    exact told h (Timeline.operations_incidents _)
  · intro tl d before a after h
    exact told h rfl

end PerfTimeline
