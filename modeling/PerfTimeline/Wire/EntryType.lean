import PerfTimeline.Entry.Kind
import PerfTimeline.Json.Members

/-!
# Entry types in JSON

An entry type is written as its name.
-/

namespace PerfTimeline.EntryType

open PerfTimeline.Json

/-- The written form of an entry type. -/
def toJson (t : EntryType) : Value := .ofString t.name

/-- Read an entry type. -/
def ofJson : Value → Read EntryType := Value.oneOf ofName? (all.map name)

end PerfTimeline.EntryType
