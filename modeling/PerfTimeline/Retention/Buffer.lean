import PerfTimeline.Trace

/-!
# Buffers

A buffer keeps entries in order of arrival, up to its capacity. A full buffer gives up its oldest entries to
make room and counts them as dropped; a buffer of capacity `0` keeps nothing and counts each arrival. The
count grows until it is reset. A buffer is labelled with an entry type but accepts any entry.
-/

namespace PerfTimeline

/-- The most entries a buffer holds; `none` is unbounded. -/
abbrev Capacity := Option Nat

/-- Stored entries, oldest first. -/
structure Buffer where
  entryType : EntryType
  capacity : Capacity
  entries : List Entry := []
  /-- How many entries were given up or refused since the last reset. -/
  dropped : Nat := 0
deriving DecidableEq

namespace Buffer

/-- A buffer with nothing in it. -/
def empty (entryType : EntryType) (capacity : Capacity) : Buffer := { entryType, capacity }

/-- The number of entries held. -/
def size (b : Buffer) : Nat := b.entries.length

/-! ### Storing -/

/-- How many of the oldest entries have to go before one more fits: all beyond `capacity - 1`. -/
def excess (b : Buffer) : Nat :=
  match b.capacity with
  | none => 0
  | some c => b.size + 1 - c

/-- The trace of giving up `gone`, oldest first, when `dropped` entries were counted before. -/
def evictions (entryType : EntryType) (dropped : Nat) : List Entry → List TraceEvent
  | [] => []
  | e :: gone => .evicted entryType e.name (dropped + 1) :: evictions entryType (dropped + 1) gone

/-- Store an entry behind the others, giving up the oldest if the buffer is full. The second part is the
trace of the entries given up; an entry refused for want of any capacity leaves none. -/
def append (b : Buffer) (e : Entry) : Buffer × List TraceEvent :=
  if b.capacity = some 0 then
    ({ b with dropped := b.dropped + 1 }, [])
  else
    ({ b with entries := b.entries.drop b.excess ++ [e], dropped := b.dropped + b.excess },
      evictions b.entryType b.dropped (b.entries.take b.excess))

@[simp] theorem entryType_append (b : Buffer) (e : Entry) :
    (b.append e).1.entryType = b.entryType := by
  unfold append; split <;> rfl

@[simp] theorem capacity_append (b : Buffer) (e : Entry) : (b.append e).1.capacity = b.capacity := by
  unfold append; split <;> rfl

/-- A buffer with any capacity at all holds the new entry last. -/
theorem entries_append {b : Buffer} (h : b.capacity ≠ some 0) (e : Entry) :
    (b.append e).1.entries = b.entries.drop b.excess ++ [e] := by
  simp [append, h]

/-- A buffer without any capacity holds what it held before. -/
theorem entries_append_of_zero {b : Buffer} (h : b.capacity = some 0) (e : Entry) :
    (b.append e).1.entries = b.entries := by
  simp [append, h]

theorem excess_le_size {b : Buffer} (h : b.capacity ≠ some 0) : b.excess ≤ b.size := by
  unfold excess
  cases hc : b.capacity with
  | none => simp
  | some c =>
    have : c ≠ 0 := fun h0 => h (by rw [hc, h0])
    simp only; omega

/-- A buffer never grows beyond its capacity. -/
theorem size_append_le {b : Buffer} {c : Nat} (hc : b.capacity = some c) (h : b.size ≤ c) (e : Entry) :
    (b.append e).1.size ≤ c := by
  by_cases h0 : b.capacity = some 0
  · rw [size, entries_append_of_zero h0]; exact h
  · rw [size, entries_append h0]
    have he : b.excess = b.size + 1 - c := by simp only [excess, hc]
    have h0c : c ≠ 0 := fun h => h0 (by rw [hc, h])
    simp only [List.length_append, List.length_drop, List.length_cons, List.length_nil, he, size] at h ⊢
    omega

/-- Each arrival is either held or counted as dropped, and so is what was held before. -/
theorem size_add_dropped_append (b : Buffer) (e : Entry) :
    (b.append e).1.size + (b.append e).1.dropped = b.size + b.dropped + 1 := by
  by_cases h0 : b.capacity = some 0
  · simp only [append, h0, if_true, size]; omega
  · have hx := excess_le_size h0
    simp only [append, h0, if_false, size, List.length_append, List.length_drop, List.length_cons,
      List.length_nil] at hx ⊢
    omega

/-! ### Reading and removing -/

/-- The entries selected by an optional name, oldest first. -/
def select (b : Buffer) (name : Option String) : List Entry := b.entries.filter (Entry.isNamed name)

/-- The entry of that name that was stored last. -/
def findLast? (b : Buffer) (name : String) : Option Entry := b.entries.reverse.find? (·.name == name)

/-- Remove the entries selected by an optional name. -/
def clear (b : Buffer) (name : Option String) : Buffer :=
  { b with entries := b.entries.filter fun e => !e.isNamed name }

/-- How many entries `clear` removes. -/
def clearCount (b : Buffer) (name : Option String) : Nat := b.size - (b.clear name).size

/-- Start counting dropped entries from zero. -/
def resetDropped (b : Buffer) : Buffer := { b with dropped := 0 }

theorem mem_select {b : Buffer} {name : Option String} {e : Entry} :
    e ∈ b.select name ↔ e ∈ b.entries ∧ e.isNamed name = true := by
  simp [select]

theorem mem_clear {b : Buffer} {name : Option String} {e : Entry} :
    e ∈ (b.clear name).entries ↔ e ∈ b.entries ∧ e.isNamed name = false := by
  simp [clear]

theorem clearCount_add_size (b : Buffer) (name : Option String) :
    b.clearCount name + (b.clear name).size = b.size := by
  have h : (b.clear name).size ≤ b.size := List.length_filter_le _ _
  unfold clearCount; omega

theorem clearCount_eq (b : Buffer) (name : Option String) :
    b.clearCount name = (b.select name).length := by
  have key (es : List Entry) : (es.filter (Entry.isNamed name)).length +
      (es.filter fun e => !e.isNamed name).length = es.length := by
    induction es with
    | nil => rfl
    | cons e es ih => cases he : e.isNamed name <;> simp [he] <;> omega
  have h := clearCount_add_size b name
  have hs : (b.select name).length + (b.clear name).size = b.size := key b.entries
  omega

end Buffer

end PerfTimeline
