import PerfTimeline.Proofs.Timeline.Journal
import PerfTimeline.Proofs.Timeline.Pointwise

/-!
# No request to be dispatched is lost or repeated

Over any run, an observer is requested once for each of its drains that gives out records, and once more if
it is pending in the end or was when it was disconnected. Each operation keeps the balance: what becomes
pending is requested, and what was pending is drained, cut short by a disconnection, or pending still.
-/

namespace PerfTimeline.Timeline

/-! ### What is counted -/

section Counts

variable {ε : Type}

/-- The records that an observer holds. -/
def queueOf (tl : Timeline ε) (o : ObserverId) : List Entry := ((tl.observer? o).map (·.queue)).getD []

/-- Whether an operation takes an observer from idle to pending. -/
def awakens (hooks : Hooks ε) (o : ObserverId) (tl : Timeline ε) (op : Operation) : Bool :=
  (tl.observer? o).any fun s => ((tl.perform hooks op).1.observer? o).any fun s' => s.wakes s'

/-- How often an observer goes from idle to pending in the course of a run. -/
def wakeups (hooks : Hooks ε) (o : ObserverId) (tl : Timeline ε) : List Operation → Nat
  | [] => 0
  | op :: ops => (tl.awakens hooks o op).toNat + wakeups hooks o (tl.perform hooks op).1 ops

/-- Whether an operation disconnects an observer that is pending. -/
def cuts (o : ObserverId) (tl : Timeline ε) (op : Operation) : Bool :=
  op.disconnects o && tl.isLive o && tl.isPending o

/-- Whether an observer is disconnected while pending in the course of a run. -/
def cutShort (hooks : Hooks ε) (o : ObserverId) (tl : Timeline ε) : List Operation → Bool
  | [] => false
  | op :: ops => tl.cuts o op || cutShort hooks o (tl.perform hooks op).1 ops

/-- How many drains of an observer give out any records in the course of a run. -/
def servings (hooks : Hooks ε) (o : ObserverId) (tl : Timeline ε) (ops : List Operation) : Nat :=
  (tl.drains hooks o ops).countP fun es => !es.isEmpty

theorem servings_eq_zero {hooks : Hooks ε} {o : ObserverId} {ops : List Operation}
    (hops : ∀ op ∈ ops, op.drains o = false) (tl : Timeline ε) : tl.servings hooks o ops = 0 := by
  rw [servings, drains_eq_nil hops]
  rfl

theorem isConnected_of_isPending {tl : Timeline ε} {o : ObserverId} (h : tl.isPending o = true) :
    tl.isConnected o = true := by
  unfold isPending isConnected at *
  cases hs : tl.observer? o with
  | none => simp [hs] at h
  | some s =>
    have hst : s.status = .pending := by simpa [hs] using h
    simp [Observer.isDisconnected, hst]

theorem isPending_iff {tl : Timeline ε} (h : tl.Sound) (o : ObserverId) :
    tl.isPending o = !(tl.queueOf o).isEmpty := by
  unfold isPending queueOf
  cases hs : tl.observer? o with
  | none => rfl
  | some s =>
    have hco := h.coherent o s hs
    cases hst : s.status with
    | idle => simp [hst, hco.idle hst]
    | pending =>
      have hq := hco.pending hst
      simp [hst, hq]
    | disconnected =>
      have hq := congrArg Observer.queue (hco.disconnected hst)
      simp [hst, hq]

theorem settled_of_disconnected {hooks : Hooks ε} (hp : hooks.Passive) {tl : Timeline ε} (h : tl.Sound)
    {o : ObserverId} (ho : o < tl.slots.length) (hc : tl.isConnected o = false) (ops : List Operation) :
    (tl.run hooks ops).isPending o = false ∧ tl.cutShort hooks o ops = false := by
  have rested {t : Timeline ε} (ht : t.isConnected o = false) : t.isPending o = false := by
    cases hpend : t.isPending o with
    | false => rfl
    | true => rw [isConnected_of_isPending hpend] at ht; exact nomatch ht
  induction ops generalizing tl with
  | nil => exact ⟨rested hc, rfl⟩
  | cons op ops ih =>
    have hnext : (tl.perform hooks op).1.isConnected o = false := by
      cases hconn : (tl.perform hooks op).1.isConnected o with
      | false => rfl
      | true => rw [isConnected_of_isConnected_perform hp h ho hconn] at hc; exact nomatch hc
    obtain ⟨hpending, hcut⟩ :=
      ih (h.perform hp op) (Nat.lt_of_lt_of_le ho (length_slots_perform hp h op)) hnext
    refine ⟨hpending, ?_⟩
    rw [cutShort, hcut, cuts, rested hc]
    simp

theorem disconnected_of_cuts {hooks : Hooks ε} (hp : hooks.Passive) {tl : Timeline ε} (h : tl.Sound)
    {o : ObserverId} (ho : o < tl.slots.length) {op : Operation} (hc : tl.cuts o op = true) :
    (tl.perform hooks op).1.isConnected o = false := by
  simp only [cuts, Bool.and_eq_true] at hc
  obtain ⟨⟨hd, hl⟩, -⟩ := hc
  cases hconn : (tl.perform hooks op).1.isConnected o with
  | false => rfl
  | true =>
    obtain ⟨host, heq⟩ := perform_eq hp h.nodup op
    rw [heq] at hconn
    rw [disconnects_eq_false ho hl hconn] at hd
    exact nomatch hd

end Counts

/-! ### The balance of one operation -/

variable {tl : Timeline Journal} {o : ObserverId}

theorem awakens_eq (h : tl.Sound) (ho : o < tl.slots.length) (op : Operation) :
    tl.awakens .journal o op = (!tl.isPending o && (tl.perform .journal op).1.isPending o) := by
  cases hpend : (tl.perform .journal op).1.isPending o with
  | false =>
    unfold awakens isPending Observer.wakes at *
    cases hs : tl.observer? o with
    | none => simp
    | some s =>
      cases hs' : (tl.perform .journal op).1.observer? o with
      | none => simp
      | some s' =>
        have hst : (s'.status == .pending) = false := by simpa [hs'] using hpend
        simp [hst]
  | true =>
    -- What is pending afterwards was connected before, so it was either idle or pending.
    have hconn :=
      isConnected_of_isConnected_perform Hooks.passive_journal h ho (isConnected_of_isPending hpend)
    obtain ⟨s, hs, hd⟩ := exists_of_isConnected hconn
    unfold awakens isPending Observer.wakes at *
    cases hs' : (tl.perform .journal op).1.observer? o with
    | none => simp [hs'] at hpend
    | some s' =>
      have hst' : (s'.status == .pending) = true := by simpa [hs'] using hpend
      simp only [hs, Option.any_some, hst', Bool.and_true]
      cases hst : s.status with
      | idle => rfl
      | pending => rfl
      | disconnected => simp [Observer.isDisconnected, hst] at hd

/-- One operation requests an observer just when it takes it from idle to pending; and what was or becomes
pending is served, cut short, or pending afterwards. -/
structure Balanced (o : ObserverId) (tl : Timeline Journal) (op : Operation) : Prop where
  route : (tl.perform .journal op).1.route? o = tl.route? o
  requests : requests o (tl.perform .journal op).1.host =
    requests o tl.host ++ if tl.awakens .journal o op then tl.request o else []
  balance : (tl.awakens .journal o op).toNat + (tl.isPending o).toNat =
    (tl.drained .journal o op).countP (fun es => !es.isEmpty) + (tl.cuts o op).toNat +
      ((tl.perform .journal op).1.isPending o).toNat

theorem Balanced.of_settles (h : tl.Sound) (ho : o < tl.slots.length) {op : Operation}
    (hs : Settles o tl (tl.perform .journal op).1)
    (hserved : (tl.isPending o).toNat =
      (tl.drained .journal o op).countP (fun es => !es.isEmpty) + (tl.cuts o op).toNat) :
    Balanced o tl op := by
  have hawakens : tl.awakens .journal o op = false := by
    rw [awakens_eq h ho, hs.rested, Bool.and_false]
  refine ⟨hs.route, ?_, ?_⟩
  · rw [hs.requests, hawakens]
    exact (List.append_nil _).symm
  · rw [hawakens, hs.rested]
    simpa using hserved

theorem Balanced.of_rouses (h : tl.Sound) (ho : o < tl.slots.length) {op : Operation}
    (hr : Rouses o tl (tl.perform .journal op).1) (hdrains : op.drains o = false)
    (hdisconnects : op.disconnects o = false) : Balanced o tl op := by
  have hdrained : tl.drained .journal o op = [] := by simp [drained, hdrains]
  have hcuts : tl.cuts o op = false := by simp [cuts, hdisconnects]
  have hawakens := awakens_eq h ho op
  cases hp : tl.isPending o with
  | false =>
    rw [hp] at hawakens
    refine ⟨hr.route, ?_, ?_⟩
    · rw [hawakens]
      exact hr.rested hp
    · rw [hawakens, hdrained, hcuts, hp]
      simp
  | true =>
    obtain ⟨hpending, hsame⟩ := hr.pending hp
    rw [hp] at hawakens
    refine ⟨hr.route, ?_, ?_⟩
    · rw [hawakens, hsame]
      exact (List.append_nil _).symm
    · rw [hawakens, hdrained, hcuts, hp, hpending]
      rfl

theorem Balanced.of_dead (h : tl.Sound) (ho : o < tl.slots.length) (hl : tl.isLive o = false)
    {op : Operation} (hop : tl.perform .journal op = (tl, .done)) : Balanced o tl op := by
  have hfst : (tl.perform .journal op).1 = tl := by rw [hop]
  have hawakens : tl.awakens .journal o op = false := by
    rw [awakens_eq h ho, hfst]
    cases tl.isPending o <;> rfl
  have hdrained : (tl.drained .journal o op).countP (fun es => !es.isEmpty) = 0 := by
    unfold drained
    rw [hop]
    split <;> rfl
  have hcuts : tl.cuts o op = false := by simp [cuts, hl]
  refine ⟨congrArg (route? · o) hfst, ?_, ?_⟩
  · rw [hfst, hawakens]
    exact (List.append_nil _).symm
  · rw [hfst, hawakens, hdrained, hcuts]
    simp

theorem isEmpty_take (s : Observer) (sorted : Bool) : (s.take sorted).2.isEmpty = s.queue.isEmpty := by
  have hlen := (Observer.take_perm s sorted).length_eq
  cases hq : s.queue with
  | nil =>
    rw [hq] at hlen
    rw [List.length_eq_zero_iff.mp hlen]
  | cons e es =>
    cases ht : (s.take sorted).2 with
    | nil =>
      rw [hq, ht] at hlen
      exact nomatch hlen
    | cons f fs => rfl

theorem balanced_perform (h : tl.Sound) (ho : o < tl.slots.length) (op : Operation) :
    Balanced o tl op := by
  have other (hdrains : op.drains o = false) (hdisconnects : op.disconnects o = false) :
      Balanced o tl op :=
    .of_rouses h ho (rouses_perform hdrains hdisconnects fun _ _ _ => Nat.ne_of_lt ho) hdrains
      hdisconnects
  cases op with
  | take p sorted =>
    by_cases hp : p = o
    · subst hp
      cases hl : tl.isLive p with
      | false => exact .of_dead h ho hl (by simp [perform, onLive, hl])
      | true =>
        refine .of_settles h ho (settles_take hl sorted) ?_
        have hs : ∃ s, tl.observer? p = some s := by
          cases hs : tl.observer? p with
          | some s => exact ⟨s, rfl⟩
          | none => simp [observer?, Nat.not_le_of_lt ho] at hs
        obtain ⟨s, hs⟩ := hs
        have htaken : (tl.perform .journal (.take p sorted)).2.taken = (s.take sorted).2 := by
          simp [perform, onLive, hl, take, hs, Answer.taken]
        have hqueue : tl.queueOf p = s.queue := by simp [queueOf, hs]
        rw [isPending_iff h, hqueue]
        simp only [drained, Operation.drains, beq_self_eq_true, ite_true, htaken, cuts,
          Operation.disconnects, Bool.false_and, List.countP_singleton, isEmpty_take]
        cases s.queue.isEmpty <;> rfl
    · exact other (by simp [Operation.drains, hp]) rfl
  | disconnect p =>
    by_cases hp : p = o
    · subst hp
      cases hl : tl.isLive p with
      | false => exact .of_dead h ho hl (by simp [perform, onLive, hl])
      | true =>
        refine .of_settles h ho (settles_disconnect hl) ?_
        simp [drained, Operation.drains, cuts, Operation.disconnects, hl]
    · exact other rfl (by simp [Operation.disconnects, hp])
  | _ => exact other rfl rfl

/-! ### The balance of a run -/

/-- Requests follow the wake-ups of a run, and these its servings. -/
theorem balance_run {r : Route} (h : tl.Sound) (ho : o < tl.slots.length) (hr : tl.route? o = some r)
    (ops : List Operation) :
    (tl.run .journal ops).route? o = tl.route? o ∧
      requests o (tl.run .journal ops).host =
        requests o tl.host ++ List.replicate (tl.wakeups .journal o ops) (r.request o) ∧
      tl.wakeups .journal o ops + (tl.isPending o).toNat = tl.servings .journal o ops +
        ((tl.run .journal ops).isPending o || tl.cutShort .journal o ops).toNat := by
  induction ops generalizing tl with
  | nil =>
    refine ⟨rfl, (List.append_nil _).symm, ?_⟩
    simp [wakeups, servings, drains, cutShort]
  | cons op ops ih =>
    have hone := balanced_perform h ho op
    have hsound := h.perform Hooks.passive_journal op
    have ho' := Nat.lt_of_lt_of_le ho (length_slots_perform Hooks.passive_journal h op)
    obtain ⟨hroute, hrequests, hbalance⟩ := ih hsound ho' (hone.route.trans hr)
    have hrequest : tl.request o = [r.request o] := by
      unfold request
      rw [hr]
      rfl
    refine ⟨hroute.trans hone.route, ?_, ?_⟩
    · rw [run_cons, hrequests, hone.requests, hrequest, wakeups, List.append_assoc]
      congr 1
      cases tl.awakens .journal o op with
      | true => rw [Bool.toNat_true, Nat.add_comm, List.replicate_succ]; rfl
      | false => simp
    · have hservings : tl.servings .journal o (op :: ops) =
          (tl.drained .journal o op).countP (fun es => !es.isEmpty) +
            (tl.perform .journal op).1.servings .journal o ops := List.countP_append
      -- Once cut short, the observer is disconnected and nothing more becomes of it.
      have hcut : (tl.cuts o op).toNat + ((tl.run .journal (op :: ops)).isPending o ||
            (tl.perform .journal op).1.cutShort .journal o ops).toNat =
          ((tl.run .journal (op :: ops)).isPending o || tl.cutShort .journal o (op :: ops)).toNat := by
        rw [cutShort]
        cases hc : tl.cuts o op with
        | false => simp
        | true =>
          have hgone := disconnected_of_cuts Hooks.passive_journal h ho hc
          obtain ⟨hpending, hlater⟩ :=
            settled_of_disconnected Hooks.passive_journal hsound ho' hgone ops
          rw [run_cons, hpending, hlater]
          rfl
      rw [wakeups, hservings, ← hcut]
      rw [run_cons] at hcut ⊢
      have hbal := hone.balance
      omega

/-! ### From the beginning -/

theorem length_slots_create {ε : Type} (tl : Timeline ε) (limit : Nat) (route : Route) :
    (tl.create limit route).1.slots.length = tl.slots.length + 1 := List.length_append

theorem requests_perform_of_unmade (h : tl.Sound) {op : Operation}
    (ho : (tl.perform .journal op).1.slots.length ≤ o) :
    requests o (tl.perform .journal op).1.host = requests o tl.host := by
  have hle := Nat.le_trans (length_slots_perform Hooks.passive_journal h op) ho
  have hdead : tl.isLive o = false := by
    cases hl : tl.isLive o with
    | false => rfl
    | true => exact absurd (lt_length_of_isLive hl) (Nat.not_lt_of_le hle)
  have roused (hr : Rouses o tl (tl.perform .journal op).1) :
      requests o (tl.perform .journal op).1.host = requests o tl.host := by
    have hbefore : tl.isPending o = false := by simp [isPending, observer?_eq_none hle]
    have hafter : (tl.perform .journal op).1.isPending o = false := by
      simp [isPending, observer?_eq_none ho]
    have hrested := hr.rested hbefore
    rw [hafter] at hrested
    exact hrested.trans (List.append_nil _)
  have hmade : ∀ limit route, op = .create limit route → o ≠ tl.slots.length := by
    rintro limit route rfl heq
    have hlt : tl.slots.length + 1 ≤ o := Nat.le_trans (Nat.le_of_eq (length_slots_create ..).symm) ho
    exact Nat.lt_irrefl _ (heq ▸ hlt)
  cases op with
  | take p sorted =>
    by_cases hp : p = o
    · simp [perform, onLive, hp, hdead]
    · exact roused (rouses_perform (by simp [Operation.drains, hp]) rfl hmade)
  | disconnect p =>
    by_cases hp : p = o
    · simp [perform, onLive, hp, hdead]
    · exact roused (rouses_perform rfl (by simp [Operation.disconnects, hp]) hmade)
  | _ => exact roused (rouses_perform rfl rfl hmade)

theorem requests_of_unmade (capacities : Capacities) (ops : List Operation) {o : ObserverId}
    (ho : ((new capacities []).run .journal ops).slots.length ≤ o) :
    requests o ((new capacities []).run .journal ops).host = [] := by
  have hall : ((new capacities []).run .journal ops).Sound ∧
      ∀ p, ((new capacities []).run .journal ops).slots.length ≤ p →
        requests p ((new capacities []).run .journal ops).host = [] := by
    refine run_induction (P := fun tl => tl.Sound ∧ ∀ p, tl.slots.length ≤ p → requests p tl.host = [])
      ?_ ⟨sound_new capacities [], fun _ _ => rfl⟩
    rintro tl op - ⟨h, hnone⟩
    refine ⟨h.perform Hooks.passive_journal op, ?_⟩
    intro p hp
    rw [requests_perform_of_unmade h hp]
    exact hnone p (Nat.le_trans (length_slots_perform Hooks.passive_journal h op) hp)
  exact hall.2 o ho

end PerfTimeline.Timeline
