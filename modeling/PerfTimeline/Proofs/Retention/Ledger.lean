import PerfTimeline.Proofs.Retention.Eviction
import PerfTimeline.Retention.Family

/-!
# Ledgers

A ledger accounts for every entry that ever arrived at a buffer: it is still there, a removal returned it in
its number, or it was lost to the capacity. The account balances at every point of every run over a family
of buffers, whatever their capacities and wherever their common counter starts.
-/

namespace PerfTimeline

namespace Buffer

inductive Change where
  | append (e : Entry)
  | clear (name : Option String)
  | resetDropped

def perform (b : Buffer) : Change → Buffer
  | .append e => (b.append e).1
  | .clear name => b.clear name
  | .resetDropped => b.resetDropped

/-- What is not there any more once `e` has arrived, of the entries held before and `e` itself. -/
def lost (b : Buffer) (e : Entry) : List Entry :=
  (b.entries ++ [e]).filter fun x => x ∉ (b.append e).1.entries

/-- The last of some entries, as many as there is room for. -/
def latest : Capacity → List Entry → List Entry
  | none, es => es
  | some c, es => es.drop (es.length - c)

end Buffer

structure Ledger where
  /-- The entries that arrived, as they were stored. -/
  stored : List Entry := []
  /-- The sum of the numbers that removals returned. -/
  removed : Nat := 0
  lost : List Entry := []
  /-- The entries lost since the last reset. -/
  recent : List Entry := []

def Ledger.enter (l : Ledger) (b : Buffer) : Buffer.Change → Ledger
  | .append e =>
    { l with stored := l.stored ++ [e], lost := l.lost ++ b.lost e, recent := l.recent ++ b.lost e }
  | .clear name => { l with removed := l.removed + b.clearCount name }
  | .resetDropped => { l with recent := [] }

namespace Family

/-- Empty buffers of the given types and capacities. -/
def new (sequence : Nat) (specs : List (EntryType × Capacity)) : Family :=
  ⟨sequence, specs.map fun spec => .empty spec.1 spec.2⟩

def step (f : Family) (i : Nat) : Buffer.Change → Family
  | .append e => ((f.append i e).map (·.1)).getD f
  | .clear name => f.modify i (·.clear name)
  | .resetDropped => f.modify i Buffer.resetDropped

def run (f : Family) (changes : List (Nat × Buffer.Change)) : Family :=
  changes.foldl (fun f change => f.step change.1 change.2) f

/-- The change as it reaches its buffer: an entry has got the next number by then. -/
def numbered (f : Family) : Buffer.Change → Buffer.Change
  | .append e => .append (e.withSequence (f.sequence + 1))
  | .clear name => .clear name
  | .resetDropped => .resetDropped

/-- The ledger `l` of buffer `i`, continued along a run. -/
def ledger (i : Nat) (f : Family) : List (Nat × Buffer.Change) → Ledger → Ledger
  | [], l => l
  | (j, change) :: changes, l =>
    ledger i (f.step j change) changes <|
      match f.buffers[i]? with
      | some b => if j = i then l.enter b (f.numbered change) else l
      | none => l

end Family

/-! ### Storing in order -/

namespace Buffer

variable {b : Buffer} {e : Entry}

@[simp] theorem entryType_perform (b : Buffer) (change : Change) :
    (b.perform change).entryType = b.entryType := by
  cases change with
  | append e => exact entryType_append b e
  | clear => rfl
  | resetDropped => rfl

@[simp] theorem capacity_perform (b : Buffer) (change : Change) :
    (b.perform change).capacity = b.capacity := by
  cases change with
  | append e => exact capacity_append b e
  | clear => rfl
  | resetDropped => rfl

theorem Fits.entries_of_zero (h : b.Fits) (hc : b.capacity = some 0) : b.entries = [] := by
  have hle := h 0 hc
  exact List.eq_nil_of_length_eq_zero (Nat.le_zero.mp hle)

theorem Fits.perform (h : b.Fits) (change : Change) : (b.perform change).Fits := by
  intro c hc
  rw [capacity_perform] at hc
  cases change with
  | append e => exact size_append_le hc (h c hc) e
  | clear name => exact Nat.le_trans (List.length_filter_le _ _) (h c hc)
  | resetDropped => exact h c hc

theorem filter_of_subset {es kept : List Entry} (h : ∀ x ∈ es, x ∈ kept) :
    es.filter (fun x => x ∉ kept) = [] :=
  List.filter_eq_nil_iff.mpr fun x hx => by simpa using h x hx

theorem dropped_append (h : b.Fits) (hasc : b.entries.Pairwise fun x y => x.sequence < y.sequence)
    (hlast : ∀ x ∈ b.entries, x.sequence < e.sequence) :
    (b.append e).1.dropped = b.dropped + (b.lost e).length := by
  -- Without any capacity the new entry is lost, with room nothing is, and otherwise the oldest.
  rcases append_cases h e with ⟨hc, happend⟩ | ⟨-, happend⟩ | ⟨gone, rest, -, hes, happend⟩
  · have hnone := h.entries_of_zero hc
    simp [lost, happend, hnone]
  · simp only [lost, happend]
    rw [filter_of_subset fun x hx => hx]
    rfl
  · rw [hes] at hasc hlast
    have hrest : gone ∉ rest := fun hmem =>
      Nat.lt_irrefl _ ((List.pairwise_cons.mp hasc).1 gone hmem)
    have hne : gone ≠ e := fun heq => by
      have hlt := hlast gone List.mem_cons_self
      rw [heq] at hlt
      exact Nat.lt_irrefl _ hlt
    simp only [lost, happend, hes, List.cons_append]
    rw [List.filter_cons_of_pos (by simp [hrest, hne]), filter_of_subset fun x hx => hx]
    rfl

theorem gone_append (h : b.Fits) (hasc : b.entries.Pairwise fun x y => x.sequence < y.sequence)
    (e : Entry) :
    (b.entries.filter fun x => x ∉ (b.append e).1.entries).length ≤ 1 ∧
    ∀ gone ∈ b.entries, gone ∉ (b.append e).1.entries →
      b.capacity = some b.size ∧ ∀ x ∈ b.entries, gone.sequence ≤ x.sequence := by
  rcases append_cases h e with ⟨-, happend⟩ | ⟨-, happend⟩ | ⟨oldest, rest, hfull, hes, happend⟩
  · simp only [happend]
    rw [filter_of_subset fun x hx => hx]
    exact ⟨Nat.zero_le _, fun gone hmem hgone => absurd hmem hgone⟩
  · simp only [happend]
    rw [filter_of_subset fun x hx => List.mem_append_left _ hx]
    exact ⟨Nat.zero_le _, fun gone hmem hgone => absurd (List.mem_append_left _ hmem) hgone⟩
  · rw [hes] at hasc
    simp only [happend, hes]
    constructor
    · rw [List.filter_cons, filter_of_subset fun x hx => List.mem_append_left _ hx]
      split
      · exact Nat.le_refl 1
      · exact Nat.zero_le 1
    · intro gone hmem hgone
      refine ⟨hfull, fun x hx => ?_⟩
      rcases List.mem_cons.mp hmem with rfl | hrest
      · rcases List.mem_cons.mp hx with rfl | hx
        · exact Nat.le_refl _
        · exact Nat.le_of_lt ((List.pairwise_cons.mp hasc).1 x hx)
      · exact absurd (List.mem_append_left _ hrest) hgone

theorem latest_append {es : List Entry} (h : b.Fits) (hes : b.entries = latest b.capacity es) :
    (b.append e).1.entries = latest b.capacity (es ++ [e]) := by
  cases hc : b.capacity with
  | none =>
    have hroom : ∀ c, b.capacity = some c → b.size < c := fun c hc' => nomatch hc.symm.trans hc'
    rw [entries_append_of_room hroom, hes, hc]
    rfl
  | some c =>
    rw [hc] at hes
    have hsize : b.size = es.length - (es.length - c) := by rw [size, hes, latest, List.length_drop]
    by_cases h0 : c = 0
    · subst h0
      rw [entries_append_of_zero hc, h.entries_of_zero hc]
      simp [latest]
    · have hsome : b.capacity ≠ some 0 := by simp [hc, h0]
      have hexcess : b.excess = b.size + 1 - c := by simp only [excess, hc]
      have hdrop : es.length - c + (b.size + 1 - c) = es.length + 1 - c := by omega
      have hle : es.length + 1 - c ≤ es.length := by omega
      rw [entries_append hsome, hexcess, hes, latest, List.drop_drop, hdrop, latest,
        List.length_append, List.length_singleton, List.drop_append_of_le_length hle]

end Buffer

/-! ### Families in order -/

namespace Family

variable {f : Family} {i j : Nat} {b b' : Buffer} {change : Buffer.Change}

theorem append_eq (hb : f.buffers[i]? = some b) (e : Entry) :
    f.append i e = some (⟨f.sequence + 1, f.buffers.set i (b.append (e.withSequence (f.sequence + 1))).1⟩,
      e.withSequence (f.sequence + 1), (b.append (e.withSequence (f.sequence + 1))).2) := by
  simp only [append, hb]
  rfl

theorem sequence_step_le (f : Family) (i : Nat) (change : Buffer.Change) :
    f.sequence ≤ (f.step i change).sequence := by
  cases change with
  | append e =>
    cases hb : f.buffers[i]? with
    | none => simp [step, append, hb]
    | some b => simp [step, append_eq hb]
  | clear => exact Nat.le_refl _
  | resetDropped => exact Nat.le_refl _

theorem getElem?_step (f : Family) (i j : Nat) (change : Buffer.Change) :
    (f.step j change).buffers[i]? =
      f.buffers[i]?.map fun b => if j = i then b.perform (f.numbered change) else b := by
  cases change with
  | append e =>
    cases hb : f.buffers[j]? with
    | none =>
      have hsame : f.step j (.append e) = f := by simp [step, append, hb]
      rw [hsame]
      by_cases hij : j = i
      · subst hij
        rw [hb]
        rfl
      · simp [hij]
    | some b =>
      simp only [step, append_eq hb, Option.map_some, Option.getD_some, List.getElem?_set]
      by_cases hij : j = i
      · subst hij
        have hlt : j < f.buffers.length := (List.getElem?_eq_some_iff.mp hb).1
        rw [hb]
        simp [hlt, numbered, Buffer.perform]
      · simp [hij]
  | clear name =>
    simp only [step, modify, List.getElem?_modify]
    rfl
  | resetDropped =>
    simp only [step, modify, List.getElem?_modify]
    rfl

/-- The buffers are within their capacities and in ascending order, numbered up to the counter, and no number
occurs in two of them. -/
structure Ordered (f : Family) : Prop where
  ascending (i : Nat) (b : Buffer) (hb : f.buffers[i]? = some b) :
    b.entries.Pairwise fun x y => x.sequence < y.sequence
  le_counter (i : Nat) (b : Buffer) (hb : f.buffers[i]? = some b) :
    ∀ x ∈ b.entries, x.sequence ≤ f.sequence
  fits (i : Nat) (b : Buffer) (hb : f.buffers[i]? = some b) : b.Fits
  separate (i j : Nat) (b b' : Buffer) (hne : i ≠ j) (hb : f.buffers[i]? = some b)
    (hb' : f.buffers[j]? = some b') : ∀ x ∈ b.entries, ∀ y ∈ b'.entries, x.sequence ≠ y.sequence

theorem ordered_new (sequence : Nat) (specs : List (EntryType × Capacity)) :
    (new sequence specs).Ordered := by
  have hempty (i : Nat) (b : Buffer) (hb : (new sequence specs).buffers[i]? = some b) :
      b.entries = [] := by
    simp only [new, List.getElem?_map, Option.map_eq_some_iff] at hb
    obtain ⟨spec, -, rfl⟩ := hb
    rfl
  constructor
  · intro i b hb
    rw [hempty i b hb]
    exact .nil
  · intro i b hb x hx
    rw [hempty i b hb] at hx
    exact nomatch hx
  · intro i b hb c _
    rw [Buffer.size, hempty i b hb]
    exact Nat.zero_le c
  · intro i j b b' _ hb _ x hx
    rw [hempty i b hb] at hx
    exact nomatch hx

/-- An entry that was not there before has the number that was not given out before. -/
theorem mem_step (hb : f.buffers[i]? = some b) (hb' : (f.step j change).buffers[i]? = some b')
    {x : Entry} (hx : x ∈ b'.entries) :
    x ∈ b.entries ∨ j = i ∧ x.sequence = f.sequence + 1 ∧ f.sequence < (f.step j change).sequence := by
  rw [getElem?_step, hb, Option.map_some, Option.some.injEq] at hb'
  subst hb'
  by_cases hij : j = i
  · subst hij
    rw [if_pos rfl] at hx
    cases change with
    | append e =>
      rcases Buffer.mem_append hx with hx | rfl
      · exact .inl hx
      · refine .inr ⟨rfl, rfl, ?_⟩
        simp [step, append_eq hb]
    | clear name => exact .inl (Buffer.mem_clear.mp hx).1
    | resetDropped => exact .inl hx
  · rw [if_neg hij] at hx
    exact .inl hx

theorem Ordered.lt_next (h : f.Ordered) (hb : f.buffers[i]? = some b) (e : Entry) :
    ∀ x ∈ b.entries, x.sequence < (e.withSequence (f.sequence + 1)).sequence := by
  intro x hx
  have hle := h.le_counter i b hb x hx
  show x.sequence < f.sequence + 1
  omega

theorem Ordered.step (h : f.Ordered) (j : Nat) (change : Buffer.Change) : (f.step j change).Ordered := by
  have hbefore (i : Nat) (b' : Buffer) (hb' : (f.step j change).buffers[i]? = some b') :
      ∃ b, f.buffers[i]? = some b ∧ b' = if j = i then b.perform (f.numbered change) else b := by
    rw [getElem?_step, Option.map_eq_some_iff] at hb'
    obtain ⟨b, hb, rfl⟩ := hb'
    exact ⟨b, hb, rfl⟩
  constructor
  · intro i b' hb'
    obtain ⟨b, hb, rfl⟩ := hbefore i b' hb'
    split
    · cases change with
      | append e => exact Buffer.ascending_append (h.ascending i b hb) (h.lt_next hb e)
      | clear name => exact (h.ascending i b hb).filter _
      | resetDropped => exact h.ascending i b hb
    · exact h.ascending i b hb
  · intro i b' hb' x hx
    obtain ⟨b, hb, -⟩ := hbefore i b' hb'
    have hle := sequence_step_le f j change
    rcases mem_step hb hb' hx with hx | ⟨-, hnext, hlt⟩
    · have hx := h.le_counter i b hb x hx
      omega
    · omega
  · intro i b' hb'
    obtain ⟨b, hb, rfl⟩ := hbefore i b' hb'
    split
    · exact (h.fits i b hb).perform _
    · exact h.fits i b hb
  · -- The next number goes to one buffer only, and no buffer held it before.
    intro i k b' c' hne hb' hc' x hx y hy
    obtain ⟨b, hb, -⟩ := hbefore i b' hb'
    obtain ⟨c, hc, -⟩ := hbefore k c' hc'
    rcases mem_step hb hb' hx with hx | ⟨hi, hx, -⟩
    · rcases mem_step hc hc' hy with hy | ⟨-, hy, -⟩
      · exact h.separate i k b c hne hb hc x hx y hy
      · have hle := h.le_counter i b hb x hx
        omega
    · rcases mem_step hc hc' hy with hy | ⟨hk, -, -⟩
      · have hle := h.le_counter k c hc y hy
        omega
      · exact absurd (hi.symm.trans hk) hne

theorem Ordered.run (h : f.Ordered) (changes : List (Nat × Buffer.Change)) : (f.run changes).Ordered := by
  induction changes generalizing f with
  | nil => exact h
  | cons change changes ih => exact ih (h.step change.1 change.2)

/-! ### Balance -/

end Family

/-- Every entry that arrived is there, was removed or was lost, and the buffer counts the recent losses. -/
structure Ledger.Balances (l : Ledger) (b : Buffer) : Prop where
  stored : l.stored.length = b.size + l.removed + l.lost.length
  dropped : b.dropped = l.recent.length

theorem Ledger.Balances.enter {l : Ledger} {f : Family} {i : Nat} {b : Buffer} (h : l.Balances b)
    (hf : f.Ordered) (hb : f.buffers[i]? = some b) (change : Buffer.Change) :
    (l.enter b (f.numbered change)).Balances (b.perform (f.numbered change)) := by
  obtain ⟨hstored, hdropped⟩ := h
  cases change with
  | append e =>
    have hlost := Buffer.dropped_append (hf.fits i b hb) (hf.ascending i b hb) (hf.lt_next hb e)
    have hkept := Buffer.size_add_dropped_append b (e.withSequence (f.sequence + 1))
    constructor
    · simp only [Ledger.enter, Family.numbered, Buffer.perform, List.length_append,
        List.length_singleton]
      omega
    · simp only [Ledger.enter, Family.numbered, Buffer.perform, List.length_append]
      omega
  | clear name =>
    have hremoved := Buffer.clearCount_add_size b name
    constructor
    · show l.stored.length = (b.clear name).size + (l.removed + b.clearCount name) + l.lost.length
      omega
    · exact hdropped
  | resetDropped => exact ⟨hstored, rfl⟩

namespace Family

variable {f : Family} {i : Nat} {b : Buffer}

theorem latest_enter {c : Capacity} {l : Ledger} {change : Buffer.Change} (hf : f.Ordered)
    (hb : f.buffers[i]? = some b) (hc : b.capacity = c) (h : b.entries = Buffer.latest c l.stored)
    (hkeep : ∀ name, change ≠ .clear name) :
    (b.perform (f.numbered change)).entries =
      Buffer.latest c (l.enter b (f.numbered change)).stored := by
  subst hc
  cases change with
  | append e => exact Buffer.latest_append (hf.fits i b hb) h
  | clear name => exact absurd rfl (hkeep name)
  | resetDropped => exact h

/-- What each change to buffer `i` preserves, of the buffer and its ledger, a run preserves. -/
theorem ledger_induction {P : Ledger → Buffer → Prop} {changes : List (Nat × Buffer.Change)} {l : Ledger}
    (hstep : ∀ (f : Family) (b : Buffer) (l : Ledger) (change : Buffer.Change), (i, change) ∈ changes →
      f.Ordered → f.buffers[i]? = some b → P l b →
        P (l.enter b (f.numbered change)) (b.perform (f.numbered change)))
    (hf : f.Ordered) (hb : f.buffers[i]? = some b) (h : P l b) :
    ∃ b', (f.run changes).buffers[i]? = some b' ∧ P (ledger i f changes l) b' := by
  induction changes generalizing f b l with
  | nil => exact ⟨b, hb, h⟩
  | cons first changes ih =>
    obtain ⟨j, change⟩ := first
    have hrest := @ih (f.step j change) (if j = i then b.perform (f.numbered change) else b)
      (if j = i then l.enter b (f.numbered change) else l)
      (fun f b l change hmem => hstep f b l change (List.mem_cons_of_mem _ hmem)) (hf.step j change)
      (by rw [getElem?_step, hb, Option.map_some])
    simp only [ledger, hb]
    apply hrest
    by_cases hij : j = i
    · subst hij
      simp only [if_true]
      exact hstep f b l change List.mem_cons_self hf hb h
    · simp only [hij, if_false]
      exact h

/-- What is known of `b`, buffer `i` of `f`, given the ledger `l` of all that was done to it. -/
structure Accounted (f : Family) (i : Nat) (b : Buffer) (l : Ledger) : Prop where
  ascending : b.entries.Pairwise fun x y => x.sequence < y.sequence
  separate : ∀ (j : Nat) (b' : Buffer), i ≠ j → f.buffers[j]? = some b' →
    ∀ x ∈ b.entries, ∀ y ∈ b'.entries, x.sequence ≠ y.sequence
  fits : ∀ c, b.capacity = some c → b.size ≤ c
  balances : l.Balances b
  /-- Storing one more entry comes to an end, in one way only. At most one entry goes for it, from a full
  buffer, and that is the oldest. -/
  storing : ∀ e, ∃ b' events,
    f.append i e = some (⟨f.sequence + 1, f.buffers.set i b'⟩, e.withSequence (f.sequence + 1), events) ∧
    (∀ b'' events', Buffer.Stores (e.withSequence (f.sequence + 1)) b b'' events' ↔
      b'' = b' ∧ events' = events) ∧
    (b.entries.filter fun x => x ∉ b'.entries).length ≤ 1 ∧
    ∀ gone ∈ b.entries, gone ∉ b'.entries →
      b.capacity = some b.size ∧ ∀ x ∈ b.entries, gone.sequence ≤ x.sequence

theorem Ordered.accounted (h : f.Ordered) (hb : f.buffers[i]? = some b) {l : Ledger}
    (hl : l.Balances b) : f.Accounted i b l where
  ascending := h.ascending i b hb
  separate j b' hne hb' := h.separate i j b b' hne hb hb'
  fits := h.fits i b hb
  balances := hl
  storing e := by
    refine ⟨_, _, append_eq hb e, ?_, Buffer.gone_append (h.fits i b hb) (h.ascending i b hb) _⟩
    intro b'' events'
    rw [Buffer.stores_iff, Prod.ext_iff]
    exact and_congr eq_comm eq_comm

/-- At every point of every run over buffers on one counter each of them is accounted for. If nothing is ever
removed from it, it holds the last of the entries that arrived, as many as it has room for. -/
theorem ledger_balances (sequence : Nat) (specs : List (EntryType × Capacity))
    (changes : List (Nat × Buffer.Change)) {i : Nat} {t : EntryType} {c : Capacity}
    (hi : specs[i]? = some (t, c)) :
    ∃ b, ((new sequence specs).run changes).buffers[i]? = some b ∧ b.entryType = t ∧ b.capacity = c ∧
      ((new sequence specs).run changes).Accounted i b (ledger i (new sequence specs) changes {}) ∧
      ((∀ name, (i, .clear name) ∉ changes) →
        b.entries = Buffer.latest c (ledger i (new sequence specs) changes {}).stored) := by
  have hnew := ordered_new sequence specs
  have hstart : (new sequence specs).buffers[i]? = some (.empty t c) := by simp [new, hi]
  have hbalances : Ledger.Balances {} (.empty t c) := ⟨rfl, rfl⟩
  obtain ⟨b, hb, ⟨htype, hcapacity⟩, hbalance⟩ := ledger_induction
    (P := fun l b => (b.entryType = t ∧ b.capacity = c) ∧ l.Balances b)
    (fun f b l change _ hf hb h => ⟨by simpa using h.1, h.2.enter hf hb change⟩)
    hnew hstart ⟨⟨rfl, rfl⟩, hbalances⟩
  refine ⟨b, hb, htype, hcapacity, (hnew.run changes).accounted hb hbalance, ?_⟩
  intro hclear
  have hempty : (Buffer.empty t c).entries = Buffer.latest c ({} : Ledger).stored := by
    cases c <;> simp [Buffer.empty, Buffer.latest]
  obtain ⟨b', hb', -, hlatest⟩ := ledger_induction
    (P := fun l b => b.capacity = c ∧ b.entries = Buffer.latest c l.stored)
    (fun f b l change hmem hf hb h => ⟨by simpa using h.1, latest_enter hf hb h.1 h.2
      fun name hname => hclear name (hname ▸ hmem)⟩)
    hnew hstart ⟨rfl, hempty⟩
  obtain rfl := Option.some.inj (hb.symm.trans hb')
  exact hlatest

/-- The first of three buffers, with room for two entries, gives one up, has one removed, and after a reset
gives up another. -/
theorem ledger_balances_three_buffers :
    let specs : List (EntryType × Capacity) := [(.event, some 2), (.mark, none), (.resource, some 0)]
    let e (name : String) : Buffer.Change := .append (.mark name .zero)
    let changes : List (Nat × Buffer.Change) :=
      [(0, e "a"), (1, e "b"), (0, e "c"), (2, e "d"), (0, e "f"), (0, .clear (some "c")), (0, e "g"),
        (0, .resetDropped), (0, e "h")]
    let f := (new 40 specs).run changes
    let l := ledger 0 (new 40 specs) changes {}
    specs[0]? = some (.event, some 2) ∧
      (∃ b, f.buffers[0]? = some b ∧ f.Accounted 0 b l ∧ b.entries.map (·.sequence) = [46, 47]) ∧
      l.stored.map (·.sequence) = [41, 43, 45, 46, 47] ∧ l.removed = 1 ∧
      l.lost.map (·.sequence) = [41, 45] ∧ l.recent.map (·.sequence) = [45] := by
  intro specs e changes f l
  have hi : specs[0]? = some (.event, some 2) := rfl
  obtain ⟨b, hb, -, -, haccounted, -⟩ := ledger_balances 40 specs changes hi
  have hsequences : f.buffers[0]?.map (fun b => b.entries.map (·.sequence)) = some [46, 47] := by decide
  rw [hb] at hsequences
  exact ⟨hi, ⟨b, hb, haccounted, Option.some.inj hsequences⟩, by decide, by decide, by decide, by decide⟩

end Family

end PerfTimeline
