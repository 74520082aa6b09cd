import PerfTimeline.Proofs.Delivery.Reentrant
import PerfTimeline.Proofs.Retention.Reachable

/-!
# The recorder of a timeline

An operation changes the recorder itself, and callbacks may change it again in the middle. What holds of the
recorder and is kept by all callbacks therefore holds throughout. In particular the recorder stays one that
can be reached by the operations of recorders, so what holds of these holds of the recorder of every timeline,
at each point of each run.
-/

namespace PerfTimeline

variable {ε : Type}

/-- Callbacks keep what is true of the recorder. -/
def Hooks.Keeps (P : Recorder → Prop) (hooks : Hooks ε) : Prop :=
  ∀ (o : ObserverId) (tl : Timeline ε), P tl.recorder → P (hooks.call o tl).recorder

/-- Callbacks leave behind a recorder that can be reached. -/
def Hooks.Recording (capacities : Capacities) (hooks : Hooks ε) : Prop :=
  hooks.Keeps (Recorder.Reachable capacities)

theorem Hooks.Passive.keeps {hooks : Hooks ε} (h : hooks.Passive) (P : Recorder → Prop) :
    hooks.Keeps P := by
  intro o tl ht
  obtain ⟨host, heq⟩ := h o tl
  rw [heq]
  exact ht

namespace Timeline

variable {hooks : Hooks ε} {tl : Timeline ε} {P : Recorder → Prop}

/-! ### Reactions -/

theorem keeps_dispatch (h : hooks.Keeps P) (o : ObserverId) (ht : P tl.recorder) :
    P (tl.dispatch hooks o).recorder := by
  unfold dispatch
  dsimp only
  split
  · exact ht
  · split
    · exact h o _ ht
    · exact ht

theorem keeps_react (h : hooks.Keeps P) (o : ObserverId) (next : Observer × Observer.Reaction)
    (ht : P tl.recorder) : P (tl.react hooks o next).recorder := by
  unfold react
  dsimp only
  split
  · exact keeps_dispatch h o ht
  · exact ht

theorem keeps_push (h : hooks.Keeps P) (o : ObserverId) (e : Entry) (ht : P tl.recorder) :
    P (tl.push hooks o e).1.recorder := by
  unfold push
  split
  · exact ht
  · exact keeps_react h o _ ht

/-! ### Reports -/

theorem recorder_retainAll (os : List ObserverId) (tl : Timeline ε) :
    (os.foldl retainObserver tl).recorder = tl.recorder := by
  induction os generalizing tl with
  | nil => rfl
  | cons o os ih => exact ih (tl.retainObserver o)

theorem keeps_deliver (h : hooks.Keeps P) (e : Entry) (os : List ObserverId) (ht : P tl.recorder) :
    P (tl.deliver hooks e os).recorder := by
  rw [← recorder_retainAll os tl] at ht
  unfold deliver
  generalize os.foldl retainObserver tl = owned at ht
  induction os generalizing owned with
  | nil => exact ht
  | cons o os ih => exact ih (owned.offer hooks e o) (keeps_push h o e ht)

/-- A report stores its entry; for the rest it is up to the callbacks. -/
theorem keeps_report (h : hooks.Keeps P) (e : Entry) (ht : P (tl.recorder.append e).1) :
    P (tl.report hooks e).1.recorder := by
  have hstored : P (tl.store hooks e).1.prune.recorder := ht
  exact keeps_deliver h _ _ hstored

/-! ### Subscriptions -/

theorem recorder_enroll (o : ObserverId) (tl : Timeline ε) : (tl.enroll o).recorder = tl.recorder := by
  unfold enroll
  split <;> rfl

theorem keeps_observeOne (h : hooks.Keeps P) (o : ObserverId) (t : EntryType) (options : ObserveOptions)
    (ht : P tl.recorder) : P (tl.observeOne hooks o t options).recorder := by
  unfold observeOne
  split
  · exact ht
  · dsimp only
    split
    · exact ht
    · split
      · have hretained : P (tl.enroll o).retain.recorder := by
          show P (tl.enroll o).recorder
          rw [recorder_enroll]
          exact ht
        exact keeps_react h o _ hretained
      · exact keeps_react h o _ ht

theorem keeps_observeMany (h : hooks.Keeps P) (o : ObserverId) (types : List EntryType)
    (ht : P tl.recorder) : P (tl.observeMany hooks o types).recorder := by
  unfold observeMany
  split
  · exact ht
  · split
    · exact ht
    · rw [← recorder_enroll o tl] at ht
      exact keeps_react h o _ ht

theorem keeps_take (o : ObserverId) (sorted : Bool) (ht : P tl.recorder) :
    P (tl.take o sorted).1.recorder := by
  unfold take
  split <;> exact ht

theorem keeps_disconnect (h : hooks.Keeps P) (o : ObserverId) (ht : P tl.recorder) :
    P (tl.disconnect hooks o).recorder := by
  unfold disconnect
  split
  · exact ht
  · split
    · exact ht
    · apply keeps_react h
      split <;> exact ht

/-! ### Runs -/

theorem keeps_onLive {act : Timeline ε → Timeline ε × Answer} (o : ObserverId) (ht : P tl.recorder)
    (hact : P (act tl).1.recorder) : P (tl.onLive o act).1.recorder := by
  unfold onLive
  split
  · exact hact
  · exact ht

/-- What an operation does to the recorder by itself it does at once. For the rest it is up to the
callbacks. -/
theorem keeps_perform (h : hooks.Keeps P) (op : Operation) (ht : P (op.onRecorder tl.recorder)) :
    P (tl.perform hooks op).1.recorder := by
  cases op with
  | report e => exact keeps_report h e ht
  | reportEvent name start duration timing => exact keeps_report h _ ht
  | clear t name => exact ht
  | clearAll => exact ht
  | resetDropped => exact ht
  | clearCounts => exact ht
  | create limit route => exact ht
  | clone o => exact keeps_onLive o ht ht
  | drop o => exact ht
  | observeOne o t options => exact keeps_onLive o ht (keeps_observeOne h o t options ht)
  | observeMany o types => exact keeps_onLive o ht (keeps_observeMany h o types ht)
  | take o sorted => exact keeps_onLive o ht (keeps_take o sorted ht)
  | disconnect o => exact keeps_onLive o ht (keeps_disconnect h o ht)
  | push o e => exact keeps_onLive o ht (keeps_push h o e ht)
  | register o => exact keeps_onLive o ht ht
  | unregister o => exact keeps_onLive o ht ht
  | fanOut e =>
    have hpruned : P tl.prune.recorder := ht
    exact keeps_deliver h e _ hpruned
  | close => exact ht

end Timeline

theorem Recorder.Reachable.onRecorder {capacities : Capacities} {r : Recorder}
    (h : r.Reachable capacities) (op : Operation) : (op.onRecorder r).Reachable capacities := by
  cases op with
  | report e => exact h.append e
  | reportEvent name start duration timing => exact (h.countEvent name).append _
  | clear t name => exact h.clear t name
  | clearAll => exact h.clearAll
  | resetDropped => exact h.resetDropped
  | clearCounts => exact h.clearCounts
  | _ => exact h

theorem Timeline.reachable_run {hooks : Hooks ε} {tl : Timeline ε} {capacities : Capacities}
    (h : hooks.Recording capacities) (ops : List Operation) (ht : tl.recorder.Reachable capacities) :
    (tl.run hooks ops).recorder.Reachable capacities :=
  run_induction (P := fun tl => tl.recorder.Reachable capacities)
    (fun _ op _ ht => keeps_perform h op (ht.onRecorder op)) ht

/-- Callbacks that perform operations of any kind, nested however deep, are no exception. -/
theorem Hooks.recording_planned {capacities : Capacities} (hooks : Hooks ε)
    (plan : ObserverId → Timeline ε → List Operation) (depth : Nat) :
    (hooks.planned plan depth).Recording capacities := by
  induction depth with
  | zero => exact fun _ _ ht => ht
  | succ depth ih => exact fun o tl ht => Timeline.reachable_run ih (plan o tl) ht

end PerfTimeline
