/-!
# Entry types

The five categories an entry can be stored under, each with a name (used in JSON and in messages) and a
numeric code. `EntryType.all` lists them in code order.
-/

namespace PerfTimeline

/-- The category of an entry. -/
inductive EntryType where
  /-- A named point in time. -/
  | mark
  /-- A named interval. -/
  | measure
  /-- The timing of an input event. -/
  | event
  /-- A task that held the main thread for too long. -/
  | longTask
  /-- The fetch of a network resource. -/
  | resource
deriving DecidableEq, Repr

namespace EntryType

/-- Every entry type, in code order. -/
def all : List EntryType := [mark, measure, event, longTask, resource]

/-- The name of an entry type. -/
def name : EntryType → String
  | mark => "mark"
  | measure => "measure"
  | event => "event"
  | longTask => "longtask"
  | resource => "resource"

/-- The numeric code of an entry type. -/
def code : EntryType → Nat
  | mark => 1
  | measure => 2
  | event => 3
  | longTask => 4
  | resource => 5

/-- The entry type called `s`, if there is one. -/
def ofName? (s : String) : Option EntryType := all.find? (·.name == s)

/-- The entry type with code `n`, if there is one. -/
def ofCode? (n : Nat) : Option EntryType := all.find? (·.code == n)

/-- The entry types that can be read back from the timeline; the others only reach observers. -/
def readable : List EntryType := [mark, measure]

/-- Whether entries of this type can be read back from the timeline. -/
def isReadable (t : EntryType) : Bool := readable.contains t

theorem mem_all (t : EntryType) : t ∈ all := by cases t <;> decide

theorem ofName?_name (t : EntryType) : ofName? t.name = some t := by cases t <;> decide

theorem ofCode?_code (t : EntryType) : ofCode? t.code = some t := by cases t <;> decide

end EntryType

end PerfTimeline
