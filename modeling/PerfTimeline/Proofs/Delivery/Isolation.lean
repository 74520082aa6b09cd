import PerfTimeline.Proofs.Delivery.Dispatch
import PerfTimeline.Proofs.Timeline.Mirror

/-!
# Observers do not interfere

Leave out of a run what concerns other observers than `o`: then `o` and the timeline tell the same as
before, and `o` is requested as often. The observer and the timeline are followed through both runs by
`Timeline.Mirrors`.
-/

namespace PerfTimeline

namespace Command

def concerns (o : ObserverId) : Command → Bool
  | operate op => op.concerns o
  | ask (.observer p) => p == o
  | ask _ => true

def toward (q : ObserverId) : Command → Command
  | operate op => operate (op.toward q)
  | ask (.observer _) => ask (.observer q)
  | ask q => ask q

/-- The commands without those that concern other observers. The first observer of that run is number zero. -/
def alone (o : ObserverId) (cs : List Command) : List Command :=
  (cs.filter (concerns o)).map (toward 0)

theorem alone_cons_of_concerns {o : ObserverId} {c : Command} (hc : c.concerns o = true)
    (cs : List Command) : alone o (c :: cs) = c.toward 0 :: alone o cs := by
  simp [alone, hc]

theorem alone_cons_of_not_concerns {o : ObserverId} {c : Command} (hc : c.concerns o = false)
    (cs : List Command) : alone o (c :: cs) = alone o cs := by
  simp [alone, hc]

end Command

/-- What a transcript tells of the timeline as a whole and of observer `o`, who is called number zero. -/
def excerpt (o : ObserverId) (told : List (Command × Reply)) : List (Command × Reply) :=
  (told.filter (·.1.concerns o)).map fun (c, reply) => (c.toward 0, reply)

namespace Timeline

variable {ε : Type} {hooks : Hooks ε} {o : ObserverId}

/-! ### Commands -/

section Commands

variable {tl tl' : Timeline ε}

theorem Mirrors.with_host (h : Mirrors o tl tl') (host host' : ε) :
    Mirrors o { tl with host } { tl' with host := host' } :=
  ⟨h.sound.with_host host, h.sound'.with_host host', h.recorder, h.owners, h.slot, h.registered⟩

theorem Mirrors.perform (h : Mirrors o tl tl') (hp : hooks.Passive) {op : Operation}
    (hop : op.isDirect = false) (hc : op.concerns o = true) :
    Mirrors o (tl.perform hooks op).1 (tl'.perform hooks (op.toward 0)).1 := by
  obtain ⟨host, heq⟩ := perform_eq hp h.sound.nodup op
  obtain ⟨host', heq'⟩ := perform_eq hp h.sound'.nodup (op.toward 0)
  rw [heq, heq']
  exact (h.effect hop hc).with_host host host'

theorem Mirrors.perform_other (h : Mirrors o tl tl') (hp : hooks.Passive) {op : Operation}
    (hop : op.isDirect = false) (hc : op.concerns o = false)
    (hmade : op.makes = true → o ≠ tl.slots.length) : Mirrors o (tl.perform hooks op).1 tl' := by
  obtain ⟨host, heq⟩ := perform_eq hp h.sound.nodup op
  rw [heq]
  exact (h.effect_other hop hc hmade).with_host host tl'.host

theorem answer_onLive (h : Mirrors o tl tl') {act act' : Timeline ε → Timeline ε × Answer}
    (hact : (act' tl').2 = (act tl).2) : (tl'.onLive 0 act').2 = (tl.onLive o act).2 := by
  unfold onLive
  rw [h.isLive]
  split
  · exact hact
  · rfl

theorem Mirrors.answer (h : Mirrors o tl tl') {op : Operation} (hop : op.isDirect = false)
    (hc : op.concerns o = true) :
    (tl'.perform hooks (op.toward 0)).2 = (tl.perform hooks op).2 := by
  have hreported (e : Entry) : (tl'.report hooks e).2 = (tl.report hooks e).2 := by
    show (tl'.recorder.append e).2.1 = (tl.recorder.append e).2.1
    rw [h.recorder]
  have on {p : ObserverId} (hpo : (p == o) = true) {act act' : Timeline ε → Timeline ε × Answer}
      (hact : (act' tl').2 = (act tl).2) : (tl'.onLive 0 act').2 = (tl.onLive p act).2 := by
    rw [eq_of_beq hpo]
    exact answer_onLive h hact
  cases op with
  | report e => exact congrArg Answer.stored (hreported e)
  | reportEvent name start duration timing => exact congrArg Answer.stored (hreported (.event ..))
  | create limit route => cases hc
  | clone p => exact on hc rfl
  | observeOne p t options => exact on hc rfl
  | observeMany p types => exact on hc rfl
  | take p sorted =>
    refine on hc (congrArg Answer.records ?_)
    rw [eq_of_beq hc, Timeline.take, Timeline.take, h.observer?]
    cases tl.observer? o <;> rfl
  | disconnect p => exact on hc rfl
  | push p e => cases hop
  | register p => cases hop
  | unregister p => cases hop
  | fanOut e => cases hop
  | _ => rfl

theorem Mirrors.reply (h : Mirrors o tl tl') {q : Query} (hc : (Command.ask q).concerns o = true) :
    (tl'.obey hooks ((Command.ask q).toward 0)).2 = (tl.obey hooks (.ask q)).2 := by
  cases q with
  | observer p =>
    rw [show p = o from eq_of_beq hc]
    exact congrArg Reply.observer h.observer?
  | select t name => exact congrArg (fun r => Reply.entries (r.select t name)) h.recorder
  | selectSorted types name => exact congrArg (fun r => Reply.entries (r.selectSorted types name)) h.recorder
  | markTime name => exact congrArg (fun r => Reply.time (r.markTime? name)) h.recorder
  | size t => exact congrArg (fun r => Reply.count (r.size t)) h.recorder
  | dropped t => exact congrArg (fun r => Reply.count (r.dropped t)) h.recorder
  | counts => exact congrArg (fun r => Reply.counts r.counts) h.recorder

/-! ### Runs -/

theorem length_slots_obey (hp : hooks.Passive) (h : tl.Sound) {c : Command} (hc : c.isDirect = false) :
    (tl.obey hooks c).1.slots.length = tl.slots.length + c.makes.toNat := by
  cases c with
  | operate op =>
    obtain ⟨host, heq⟩ := perform_eq hp h.nodup op
    show (tl.perform hooks op).1.slots.length = _
    rw [heq]
    exact length_slots_effect_eq tl hc
  | ask q => rfl

theorem Sound.obey (hp : hooks.Passive) (h : tl.Sound) (c : Command) : (tl.obey hooks c).1.Sound := by
  cases c with
  | operate op => exact h.perform hp op
  | ask q => exact h

theorem length_slots_proceed (hp : hooks.Passive) (h : tl.Sound) {cs : List Command}
    (hcs : ∀ c ∈ cs, c.isDirect = false) :
    (tl.proceed hooks cs).slots.length = tl.slots.length + cs.countP Command.makes := by
  induction cs generalizing tl with
  | nil => rfl
  | cons c cs ih =>
    obtain ⟨hc, hcs⟩ := List.forall_mem_cons.mp hcs
    have hlength := length_slots_obey hp h hc
    have hrest := ih (h.obey hp c) hcs
    show ((tl.obey hooks c).1.proceed hooks cs).slots.length = _
    rw [hrest, hlength, List.countP_cons]
    cases c.makes with
    | true =>
      rw [Bool.toNat_true, if_pos rfl]
      omega
    | false =>
      rw [Bool.toNat_false, if_neg Bool.false_ne_true]
      omega

/-- What is kept is obeyed and answered alike. -/
theorem Mirrors.obey (h : Mirrors o tl tl') (hp : hooks.Passive) {c : Command}
    (hdirect : c.isDirect = false) (hc : c.concerns o = true) :
    Mirrors o (tl.obey hooks c).1 (tl'.obey hooks (c.toward 0)).1 ∧
      (tl'.obey hooks (c.toward 0)).2 = (tl.obey hooks c).2 := by
  cases c with
  | operate op => exact ⟨h.perform hp hdirect hc, congrArg Reply.answer (h.answer hdirect hc)⟩
  | ask q => exact ⟨by cases q <;> exact h, h.reply hc⟩

theorem Mirrors.obey_other (h : Mirrors o tl tl') (hp : hooks.Passive) {c : Command}
    (hdirect : c.isDirect = false) (hc : c.concerns o = false)
    (hmade : c.makes = true → o ≠ tl.slots.length) : Mirrors o (tl.obey hooks c).1 tl' := by
  cases c with
  | operate op => exact h.perform_other hp hdirect hc hmade
  | ask q => exact h

/-- Nobody who is called `o` is made by some commands, before `o` is made or afterwards. -/
def Unmade (o : Nat) (tl : Timeline ε) (cs : List Command) : Prop :=
  tl.slots.length + cs.countP Command.makes ≤ o ∨ o < tl.slots.length

theorem Unmade.ne {c : Command} {cs : List Command} (h : Unmade o tl (c :: cs)) (hm : c.makes = true) :
    o ≠ tl.slots.length := by
  rw [Unmade, List.countP_cons_of_pos hm] at h
  rcases h with h | h
  · apply Nat.ne_of_gt
    omega
  · exact Nat.ne_of_lt h

theorem Unmade.obey (hp : hooks.Passive) (hs : tl.Sound) {c : Command} {cs : List Command}
    (hc : c.isDirect = false) (h : Unmade o tl (c :: cs)) : Unmade o (tl.obey hooks c).1 cs := by
  rw [Unmade, List.countP_cons] at h
  rw [Unmade, length_slots_obey hp hs hc]
  cases hm : c.makes <;> simp [hm] at h ⊢ <;> omega

/-- Both runs tell the same of `o` and of the timeline. -/
theorem Mirrors.transcript (h : Mirrors o tl tl') (hp : hooks.Passive) {cs : List Command}
    (hcs : ∀ c ∈ cs, c.isDirect = false) (hmade : Unmade o tl cs) :
    Mirrors o (tl.proceed hooks cs) (tl'.proceed hooks (Command.alone o cs)) ∧
      tl'.transcript hooks (Command.alone o cs) = excerpt o (tl.transcript hooks cs) := by
  -- along the longer run, while the other one stands still where a command is left out
  induction cs generalizing tl tl' with
  | nil => exact ⟨h, rfl⟩
  | cons c cs ih =>
    obtain ⟨hdirect, hcs⟩ := List.forall_mem_cons.mp hcs
    have hrest := hmade.obey hp h.sound hdirect
    cases hc : c.concerns o with
    | true =>
      obtain ⟨hnext, hreply⟩ := h.obey hp hdirect hc
      obtain ⟨hend, htold⟩ := ih hnext hcs hrest
      rw [Command.alone_cons_of_concerns hc]
      refine ⟨hend, ?_⟩
      rw [Timeline.transcript, Timeline.transcript, htold, hreply]
      simp [excerpt, hc]
    | false =>
      have hnext := h.obey_other hp hdirect hc hmade.ne
      obtain ⟨hend, htold⟩ := ih hnext hcs hrest
      rw [Command.alone_cons_of_not_concerns hc]
      refine ⟨hend, ?_⟩
      rw [htold, Timeline.transcript]
      simp [excerpt, hc]

theorem Mirrors.new (capacities : Capacities) (host host' : ε) (o : ObserverId) :
    Mirrors o (new capacities host) (new capacities host') :=
  ⟨sound_new _ _, sound_new _ _, rfl, rfl, rfl, fun _ => iff_of_false List.not_mem_nil List.not_mem_nil⟩

/-- Until the observer is made, whose number is how many are made before, the others can be left out. -/
theorem mirrors_until_made (hp : hooks.Passive) (capacities : Capacities) (host : ε) {before : List Command}
    (hbefore : ∀ c ∈ before, c.isDirect = false) :
    let o := before.countP Command.makes
    o = ((new capacities host).proceed hooks before).slots.length ∧
      Mirrors o ((new capacities host).proceed hooks before)
        ((new capacities host).proceed hooks (Command.alone o before)) ∧
      (new capacities host).transcript hooks (Command.alone o before) =
        excerpt o ((new capacities host).transcript hooks before) := by
  intro o
  have hlength := length_slots_proceed hp (sound_new capacities host) hbefore
  have hzero : (new capacities host).slots.length = 0 := rfl
  refine ⟨?_, (Mirrors.new capacities host host o).transcript hp hbefore (.inl ?_)⟩
  · rw [hlength, hzero, Nat.zero_add]
  · exact Nat.le_of_eq (hzero ▸ Nat.zero_add _)

/-- The last observer of one timeline is made where the other one has none. -/
theorem Mirrors.create (h : Mirrors o tl tl') (ho : o = tl.slots.length) (limit : Nat) (route : Route) :
    Mirrors o (tl.create limit route).1 (tl'.create limit route).1 := by
  have hnone : tl'.slots[0]? = none := by
    rw [h.slot, ho]
    exact List.getElem?_eq_none (Nat.le_refl _)
  have hempty : tl'.slots = [] := by
    cases hs : tl'.slots with
    | nil => rfl
    | cons s ss => simp [hs] at hnone
  refine ⟨h.sound.create limit route, h.sound'.create limit route, h.recorder, h.owners, ?_, ?_⟩
  · simp [Timeline.create, hempty, ho]
  · intro _
    have hout : o ∉ tl.registry := fun hm => Nat.ne_of_lt (h.sound.known o hm) ho
    have hout' : 0 ∉ tl'.registry := fun hm => by
      have hlt := h.sound'.known 0 hm
      simp [hempty] at hlt
    exact iff_of_false hout' hout

end Commands

/-! ### Requests -/

section Requests

variable {tl tl' : Timeline Journal}

/-- Two changes of mirrored timelines ask for the observer alike if they are alike. -/
theorem Mirrors.awakens (h : Mirrors o tl tl') {op op' : Operation}
    (hnext : Mirrors o (tl.perform .journal op).1 (tl'.perform .journal op').1) :
    tl'.awakens .journal 0 op' = tl.awakens .journal o op := by
  unfold Timeline.awakens
  rw [h.observer?, hnext.observer?]

theorem Mirrors.length_request (h : Mirrors o tl tl') :
    (tl'.request 0).length = (tl.request o).length := by
  have hroute : tl'.route? 0 = tl.route? o := by
    unfold route?
    rw [h.slot]
  unfold request
  rw [hroute]
  cases tl.route? o <;> rfl

/-- Whether both have requested `o` as often. -/
def AsOften (o : ObserverId) (tl tl' : Timeline Journal) : Prop :=
  (requests 0 tl'.host).length = (requests o tl.host).length

theorem Mirrors.asOften_obey (h : Mirrors o tl tl') (ho : o < tl.slots.length) {c : Command}
    (hdirect : c.isDirect = false) (hc : c.concerns o = true) (hcount : AsOften o tl tl') :
    AsOften o (tl.obey .journal c).1 (tl'.obey .journal (c.toward 0)).1 := by
  have hnext := (h.obey Hooks.passive_journal hdirect hc).1
  cases c with
  | ask q => cases q <;> exact hcount
  | operate op =>
    have ho' : 0 < tl'.slots.length := by
      have hslot := h.slot
      rw [List.getElem?_eq_getElem ho] at hslot
      exact (List.getElem?_eq_some_iff.mp hslot).1
    show (requests 0 (tl'.perform .journal (op.toward 0)).1.host).length =
      (requests o (tl.perform .journal op).1.host).length
    rw [(balanced_perform h.sound ho op).requests, (balanced_perform h.sound' ho' _).requests,
      h.awakens hnext, List.length_append, List.length_append, show _ = _ from hcount]
    split
    · rw [h.length_request]
    · rfl

theorem Mirrors.asOften_obey_other (h : Mirrors o tl tl') (ho : o < tl.slots.length) {c : Command}
    (hdirect : c.isDirect = false) (hc : c.concerns o = false) (hcount : AsOften o tl tl') :
    AsOften o (tl.obey .journal c).1 tl' := by
  have hnext := h.obey_other Hooks.passive_journal hdirect hc fun _ => Nat.ne_of_lt ho
  cases c with
  | ask q => exact hcount
  | operate op =>
    -- both before and after, `o` is as in the other run, which did not move
    have hsame : (tl.perform .journal op).1.observer? o = tl.observer? o :=
      hnext.observer?.symm.trans h.observer?
    have hasleep : tl.awakens .journal o op = false := by
      unfold Timeline.awakens
      rw [hsame]
      cases tl.observer? o with
      | none => rfl
      | some s => simp [Observer.wakes_of_status_eq rfl]
    show _ = (requests o (tl.perform .journal op).1.host).length
    rw [(balanced_perform h.sound ho op).requests, hasleep, show _ = _ from hcount]
    simp

theorem Mirrors.asOften (h : Mirrors o tl tl') (ho : o < tl.slots.length) {cs : List Command}
    (hcs : ∀ c ∈ cs, c.isDirect = false) (hcount : AsOften o tl tl') :
    AsOften o (tl.proceed .journal cs) (tl'.proceed .journal (Command.alone o cs)) := by
  have hp := Hooks.passive_journal
  induction cs generalizing tl tl' with
  | nil => exact hcount
  | cons c cs ih =>
    obtain ⟨hdirect, hcs⟩ := List.forall_mem_cons.mp hcs
    have ho' : o < (tl.obey .journal c).1.slots.length := by
      rw [length_slots_obey hp h.sound hdirect]
      exact Nat.lt_add_right _ ho
    cases hc : c.concerns o with
    | true =>
      rw [Command.alone_cons_of_concerns hc]
      exact ih (h.obey hp hdirect hc).1 ho' hcs (h.asOften_obey ho hdirect hc hcount)
    | false =>
      rw [Command.alone_cons_of_not_concerns hc]
      have hnext := h.obey_other hp hdirect hc fun _ => Nat.ne_of_lt ho
      exact ih hnext ho' hcs (h.asOften_obey_other ho hdirect hc hcount)

/-- Nobody is requested before being made. -/
theorem requests_proceed_of_unmade (capacities : Capacities) {cs : List Command}
    (ho : ((new capacities []).proceed .journal cs).slots.length ≤ o) :
    requests o ((new capacities []).proceed .journal cs).host = [] := by
  rw [proceed_eq_run] at ho ⊢
  exact requests_of_unmade capacities _ ho

end Requests

/-! ### The observer alone -/

/-- A run of its own has nothing to leave out. -/
theorem excerpt_alone (o : ObserverId) (told : List (Command × Reply)) :
    excerpt 0 (excerpt o told) = excerpt o told := by
  have hkept (c : Command) (hc : c.concerns o = true) :
      (c.toward 0).concerns 0 = true ∧ (c.toward 0).toward 0 = c.toward 0 := by
    cases c with
    | operate op =>
      cases op with
      | create limit route => cases hc
      | _ => exact ⟨rfl, rfl⟩
    | ask q => cases q <;> exact ⟨rfl, rfl⟩
  unfold excerpt
  rw [List.filter_map, List.map_map, List.filter_filter]
  have hfilter : told.filter (fun x => ((·.1.concerns 0) ∘ fun (c, reply) => (c.toward 0, reply)) x &&
      x.1.concerns o) = told.filter (·.1.concerns o) := by
    apply List.filter_congr
    rintro ⟨c, reply⟩ -
    cases hc : c.concerns o with
    | true => simp [hkept c hc]
    | false => simp
  rw [hfilter]
  apply List.map_congr_left
  rintro ⟨c, reply⟩ hm
  simp [(hkept c (List.mem_filter.mp hm).2).2]

/-- The command that makes an observer is left out of what is told of it. -/
theorem excerpt_transcript_create (p : ObserverId) (tl : Timeline ε) (limit : Nat) (route : Route)
    (before later : List Command) :
    excerpt p (tl.transcript hooks (before ++ .operate (.create limit route) :: later)) =
      excerpt p (tl.transcript hooks before) ++
        excerpt p (((tl.proceed hooks before).create limit route).1.transcript hooks later) := by
  rw [transcript_append]
  unfold excerpt
  rw [List.filter_append, List.map_append]
  rfl

/-- An observer is made in the course of a run, by the command between `before` and `later`. Leave out all
that the run does with other observers. Of the commands that are left, each gets the same reply as before: what
is stored, what is drained, and all there is to ask for. And the observer is requested as often. -/
theorem observer_undisturbed (hp : hooks.Passive) (capacities : Capacities) (host : ε)
    (before later : List Command) (limit : Nat) (route : Route)
    (hdirect : ∀ c ∈ before ++ later, c.isDirect = false) :
    let o := before.countP Command.makes
    let make := Command.operate (.create limit route)
    let full := before ++ make :: later
    let solo := Command.alone o before ++ make :: Command.alone o later
    (((new capacities host).proceed hooks before).obey hooks make).2 = .answer (.made o) ∧
      excerpt 0 ((new capacities host).transcript hooks solo) =
        excerpt o ((new capacities host).transcript hooks full) ∧
      (requests 0 ((new capacities []).proceed .journal solo).host).length =
        (requests o ((new capacities []).proceed .journal full).host).length := by
  intro o make full solo
  have hbefore : ∀ c ∈ before, c.isDirect = false := fun c hm => hdirect c (List.mem_append_left _ hm)
  have hlater : ∀ c ∈ later, c.isDirect = false := fun c hm => hdirect c (List.mem_append_right _ hm)
  refine ⟨?_, ?_, ?_⟩
  · exact congrArg (fun n => Reply.answer (.made n)) (mirrors_until_made hp capacities host hbefore).1.symm
  · obtain ⟨ho, hmid, htold⟩ := mirrors_until_made hp capacities host hbefore
    have hmade := hmid.create ho limit route
    have hlt : o < (((new capacities host).proceed hooks before).create limit route).1.slots.length := by
      rw [length_slots_create, ← ho]
      exact Nat.lt_succ_self o
    have hrest := (hmade.transcript hp hlater (.inr hlt)).2
    rw [excerpt_transcript_create, excerpt_transcript_create, htold, hrest, excerpt_alone, excerpt_alone]
  · obtain ⟨ho, hmid, -⟩ := mirrors_until_made Hooks.passive_journal capacities [] hbefore
    have hmade := hmid.create ho limit route
    have hlt : o < (((new capacities []).proceed .journal before).create limit route).1.slots.length := by
      rw [length_slots_create, ← ho]
      exact Nat.lt_succ_self o
    have hslot := hmid.slot.trans (List.getElem?_eq_none (Nat.le_of_eq ho.symm))
    have hnone := requests_proceed_of_unmade capacities (Nat.le_of_eq ho.symm)
    have hnone' := requests_proceed_of_unmade capacities (List.getElem?_eq_none_iff.mp hslot)
    rw [proceed_append, proceed_append]
    refine hmade.asOften hlt hlater ?_
    show (requests 0 ((new capacities []).proceed .journal (Command.alone o before)).host).length =
      (requests o ((new capacities []).proceed .journal before).host).length
    rw [hnone, hnone']

/-- The second of three observers, while the others subscribe, drain and are dropped. -/
theorem observer_undisturbed_among_three :
    let report (name : String) : Command := .operate (.report (.mark name .zero))
    let before := [.operate (.create 1 .direct), .operate (.observeMany 0 [.mark]), report "a"]
    let later := [.operate (.create 2 .scheduled), .operate (.observeOne 1 .mark ⟨true, none⟩),
      .operate (.observeMany 2 [.mark]), report "b", .operate (.take 0 true), .operate (.drop 0),
      report "c", .operate (.disconnect 2), .operate (.take 1 false), report "d", .ask (.observer 1)]
    let make := Command.operate (.create 2 .direct)
    let full := before ++ make :: later
    let solo := [report "a", make, .operate (.observeOne 0 .mark ⟨true, none⟩), report "b", report "c",
      .operate (.take 0 false), report "d", .ask (.observer 0)]
    (∀ c ∈ before ++ later, c.isDirect = false) ∧
      excerpt 0 ((new .standard ()).transcript .quiet solo) =
        excerpt 1 ((new .standard ()).transcript .quiet full) ∧
      (requests 0 ((new .standard []).proceed .journal solo).host).length = 2 ∧
      (requests 1 ((new .standard []).proceed .journal full).host).length = 2 := by
  intro report before later make full solo
  have hdirect : ∀ c ∈ before ++ later, c.isDirect = false := by decide
  obtain ⟨-, htold, hrequests⟩ :=
    observer_undisturbed Hooks.passive_quiet .standard () before later 2 .direct hdirect
  have hsolo : (requests 0 ((new .standard []).proceed .journal solo).host).length = 2 := by decide
  exact ⟨hdirect, htold, hsolo, hrequests.symm.trans hsolo⟩

end Timeline

end PerfTimeline
