/-!
# Priorities

How urgent a task is, from `immediate` to `idle`. Low and idle tasks are background work, which goes after
everything else.
-/

namespace PerfTimeline

/-- The priority of a task. -/
inductive Priority where
  | immediate
  | userBlocking
  | normal
  | low
  | idle
deriving DecidableEq

namespace Priority

/-- All priorities, the most urgent first. -/
def all : List Priority := [immediate, userBlocking, normal, low, idle]

/-- The written name of a priority. -/
def name : Priority → String
  | immediate => "immediate"
  | userBlocking => "user_blocking"
  | normal => "normal"
  | low => "low"
  | idle => "idle"

/-- The priority called `s`, if there is one. -/
def ofName? (s : String) : Option Priority := all.find? (·.name == s)

/-- The place of a priority among all; more urgent ones come first. -/
def rank : Priority → Nat
  | immediate => 0
  | userBlocking => 1
  | normal => 2
  | low => 3
  | idle => 4

instance : Ord Priority := ⟨fun a b => compare a.rank b.rank⟩

/-- Whether tasks of this priority go after all other work. -/
def isBackground : Priority → Bool
  | low | idle => true
  | immediate | userBlocking | normal => false

theorem isBackground_iff {p : Priority} : p.isBackground = true ↔ p ∈ [low, idle] := by
  cases p <;> decide

theorem not_isBackground_iff {p : Priority} :
    p.isBackground = false ↔ p ∈ [immediate, userBlocking, normal] := by
  cases p <;> decide

theorem ofName?_name (p : Priority) : ofName? p.name = some p := by cases p <;> decide

end Priority

end PerfTimeline
