import PerfTimeline.Proofs.Retention.Ordered

/-!
# Giving up the oldest entries

A buffer makes room in a loop: while it holds as many entries as it has room for, or more, its oldest entry
goes and is counted. `MakesRoom` is this loop and `Stores` is the way from an arriving entry to the buffer
that holds it, one derivation for each execution that ends. Every buffer has exactly one, and
`Buffer.append` is its outcome. The loop alone would not end without any capacity.
-/

namespace PerfTimeline.Buffer

/-- The loop that leaves less than `c` entries: from the first buffer to the second, with its trace. -/
inductive MakesRoom (c : Nat) : Buffer → Buffer → List TraceEvent → Prop where
  | done {b : Buffer} (hroom : b.size < c) : MakesRoom c b b []
  | round {b b' : Buffer} {gone : Entry} {rest : List Entry} {events : List TraceEvent}
      (hfull : c ≤ b.size) (hentries : b.entries = gone :: rest)
      (hrest : MakesRoom c { b with entries := rest, dropped := b.dropped + 1 } b' events) :
      MakesRoom c b b' (.evicted b.entryType gone.name (b.dropped + 1) :: events)
  -- nothing to give up, so the loop goes on as it was
  | idle {b b' : Buffer} {events : List TraceEvent} (hfull : c ≤ b.size) (hentries : b.entries = [])
      (hrest : MakesRoom c b b' events) : MakesRoom c b b' events

/-- An entry arrives: it is refused, or goes last once there is room. -/
inductive Stores (e : Entry) : Buffer → Buffer → List TraceEvent → Prop where
  | refused {b : Buffer} (hc : b.capacity = some 0) : Stores e b { b with dropped := b.dropped + 1 } []
  | bounded {b room : Buffer} {c : Nat} {events : List TraceEvent} (hc : b.capacity = some c)
      (h0 : c ≠ 0) (hroom : MakesRoom c b room events) :
      Stores e b { room with entries := room.entries ++ [e] } events
  | unbounded {b : Buffer} (hc : b.capacity = none) :
      Stores e b { b with entries := b.entries ++ [e] } []

/-! ### The loop -/

/-- There is never room for less than no entries. -/
theorem not_makesRoom_zero {b b' : Buffer} {events : List TraceEvent} : ¬MakesRoom 0 b b' events := by
  intro h
  induction h with
  | done hroom => exact Nat.not_lt_zero _ hroom
  | round _ _ _ ih => exact ih
  | idle _ _ _ ih => exact ih

/-- The buffer without its `n` oldest entries, which are counted. -/
def without (b : Buffer) (n : Nat) : Buffer :=
  { b with entries := b.entries.drop n, dropped := b.dropped + n }

theorem makesRoom_without {c : Nat} (h0 : c ≠ 0) (b : Buffer) :
    MakesRoom c b (b.without (b.size + 1 - c))
      (evictions b.entryType b.dropped (b.entries.take (b.size + 1 - c))) := by
  -- The induction is on what is left to give up; the count of dropped entries grows along with it.
  generalize hes : b.entries = es
  induction es generalizing b with
  | nil =>
    have hroom : b.size < c := by
      rw [size, hes, List.length_nil]
      omega
    have hnone : b.size + 1 - c = 0 := by omega
    rw [hnone]
    exact .done hroom
  | cons gone rest ih =>
    by_cases hroom : b.size < c
    · have hnone : b.size + 1 - c = 0 := by omega
      rw [hnone]
      exact .done hroom
    · have hfull : c ≤ b.size := by omega
      have hsize : b.size = rest.length + 1 := by rw [size, hes, List.length_cons]
      have hmore : b.size + 1 - c = rest.length + 1 - c + 1 := by omega
      have htail := ih { b with entries := rest, dropped := b.dropped + 1 } rfl
      have hleft : ({ b with entries := rest, dropped := b.dropped + 1 } : Buffer).without
          (rest.length + 1 - c) = b.without (rest.length + 1 - c + 1) := by
        simp only [without, hes, List.drop_succ_cons]
        congr 1
        omega
      rw [hmore, List.take_succ_cons, ← hleft]
      exact .round hfull hes htail

/-- The loop ends in one way only. -/
theorem MakesRoom.unique {c : Nat} {b b' b'' : Buffer} {events events' : List TraceEvent}
    (h : MakesRoom c b b' events) (h' : MakesRoom c b b'' events') : b' = b'' ∧ events = events' := by
  induction h generalizing b'' events' with
  | done hroom =>
    cases h' with
    | done => exact ⟨rfl, rfl⟩
    | round hfull => exact absurd hroom (Nat.not_lt.mpr hfull)
    | idle hfull => exact absurd hroom (Nat.not_lt.mpr hfull)
  | round hfull hentries _ ih =>
    cases h' with
    | done hroom => exact absurd hroom (Nat.not_lt.mpr hfull)
    | round _ hentries' hrest' =>
      obtain ⟨rfl, rfl⟩ := List.cons.inj (hentries.symm.trans hentries')
      obtain ⟨hb, hevents⟩ := ih hrest'
      exact ⟨hb, by rw [hevents]⟩
    | idle _ hempty => exact absurd (hentries.symm.trans hempty) (List.cons_ne_nil _ _)
  | @idle b b' events hfull hempty hrest ih =>
    -- An empty buffer counts as full for capacity zero only, and then no execution ends.
    have hzero : c = 0 := by
      rw [size, hempty, List.length_nil] at hfull
      omega
    subst hzero
    exact absurd hrest not_makesRoom_zero

/-! ### Storing -/

/-- Whatever the buffer, storing an entry comes to an end, and there is one end it can come to. -/
theorem stores_iff {b b' : Buffer} {e : Entry} {events : List TraceEvent} :
    Stores e b b' events ↔ b.append e = (b', events) := by
  constructor
  · intro h
    cases h with
    | refused hc => simp only [append, hc, if_true]
    | @bounded room c _ hc h0 hroom =>
      obtain ⟨rfl, rfl⟩ := hroom.unique (makesRoom_without h0 b)
      simp [append, h0, without, excess, hc]
    | unbounded hc => simp [append, excess, evictions, hc]
  · intro h
    cases hc : b.capacity with
    | none =>
      have happend : b.append e = ({ b with entries := b.entries ++ [e] }, []) := by
        simp [append, excess, evictions, hc]
      obtain ⟨rfl, rfl⟩ := Prod.mk.inj (happend.symm.trans h)
      exact .unbounded hc
    | some c =>
      by_cases h0 : c = 0
      · subst h0
        have happend : b.append e = ({ b with dropped := b.dropped + 1 }, []) := by
          simp only [append, hc, if_true]
        obtain ⟨rfl, rfl⟩ := Prod.mk.inj (happend.symm.trans h)
        exact .refused hc
      · have hsome : b.capacity ≠ some 0 := by simp [hc, h0]
        have hexcess : b.excess = b.size + 1 - c := by simp only [excess, hc]
        simp only [append, hsome, if_false, hexcess] at h
        obtain ⟨rfl, rfl⟩ := Prod.mk.inj h
        exact .bounded hc h0 (makesRoom_without h0 b)

/-- The buffer holds no more than it has room for. -/
def Fits (b : Buffer) : Prop := ∀ c, b.capacity = some c → b.size ≤ c

/-- What can become of an entry that arrives: it is refused, it finds room, or one entry goes for it. -/
theorem append_cases {b : Buffer} (h : b.Fits) (e : Entry) :
    (b.capacity = some 0 ∧ b.append e = ({ b with dropped := b.dropped + 1 }, [])) ∨
    ((∀ c, b.capacity = some c → b.size < c) ∧
      b.append e = ({ b with entries := b.entries ++ [e] }, [])) ∨
    ∃ gone rest, b.capacity = some b.size ∧ b.entries = gone :: rest ∧
      b.append e = ({ b with entries := rest ++ [e], dropped := b.dropped + 1 },
        [.evicted b.entryType gone.name (b.dropped + 1)]) := by
  by_cases h0 : b.capacity = some 0
  · exact .inl ⟨h0, by simp only [append, h0, if_true]⟩
  · by_cases hroom : ∀ c, b.capacity = some c → b.size < c
    · have hexcess := excess_of_room hroom
      refine .inr (.inl ⟨hroom, ?_⟩)
      simp [append, h0, hexcess, evictions]
    · have hfull : b.capacity = some b.size := by
        cases hc : b.capacity with
        | none =>
          refine absurd (fun c hc' => ?_) hroom
          cases hc.symm.trans hc'
        | some c =>
          have hle := h c hc
          have hnot : ¬b.size < c := fun hlt => hroom fun c' hc' => by
            obtain rfl := Option.some.inj (hc.symm.trans hc')
            exact hlt
          have hsize : c = b.size := by omega
          rw [hsize]
      have hexcess : b.excess = 1 := by
        simp only [excess, hfull]
        omega
      cases hes : b.entries with
      | nil => exact absurd (by rw [hfull, size, hes]; rfl) h0
      | cons gone rest =>
        refine .inr (.inr ⟨gone, rest, hfull, rfl, ?_⟩)
        simp [append, h0, hexcess, hes, evictions]

end PerfTimeline.Buffer
