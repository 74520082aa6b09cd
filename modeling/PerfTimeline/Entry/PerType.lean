import PerfTimeline.Entry.Kind

/-!
# One value for each entry type

A family of values, one for each entry type, read with `get` and replaced with `set`.
-/

namespace PerfTimeline

/-- A value for each entry type. -/
structure PerType (α : Type) where
  mark : α
  measure : α
  event : α
  longTask : α
  resource : α
deriving DecidableEq

namespace PerType

variable {α β : Type}

/-- The same value for every type. -/
def const (a : α) : PerType α := ⟨a, a, a, a, a⟩

/-- The value for one type. -/
def get (p : PerType α) : EntryType → α
  | .mark => p.mark
  | .measure => p.measure
  | .event => p.event
  | .longTask => p.longTask
  | .resource => p.resource

/-- Replace the value for one type. -/
def set (p : PerType α) (t : EntryType) (a : α) : PerType α :=
  match t with
  | .mark => { p with mark := a }
  | .measure => { p with measure := a }
  | .event => { p with event := a }
  | .longTask => { p with longTask := a }
  | .resource => { p with resource := a }

/-- Apply a function to every value. -/
def map (f : α → β) (p : PerType α) : PerType β :=
  ⟨f p.mark, f p.measure, f p.event, f p.longTask, f p.resource⟩

/-- The values in code order. -/
def toList (p : PerType α) : List α := EntryType.all.map p.get

@[simp] theorem get_const (a : α) (t : EntryType) : (const a).get t = a := by cases t <;> rfl

@[simp] theorem get_set_self (p : PerType α) (t : EntryType) (a : α) : (p.set t a).get t = a := by
  cases t <;> rfl

@[simp] theorem get_set_of_ne (p : PerType α) {t u : EntryType} (a : α) (h : u ≠ t) :
    (p.set t a).get u = p.get u := by
  cases t <;> cases u <;> first | rfl | exact absurd rfl h

@[simp] theorem get_map (f : α → β) (p : PerType α) (t : EntryType) :
    (p.map f).get t = f (p.get t) := by
  cases t <;> rfl

/-- Two families with the same value for every type are equal. -/
theorem ext_get {p q : PerType α} (h : ∀ t, p.get t = q.get t) : p = q := by
  cases p; cases q
  exact congr (congr (congr (congr (congrArg _ (h .mark)) (h .measure)) (h .event)) (h .longTask))
    (h .resource)

end PerType

end PerfTimeline
