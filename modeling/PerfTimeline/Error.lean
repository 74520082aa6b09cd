/-!
# Errors

The two ways in which a call with well-formed arguments fails: it names an entry type that does not exist,
or a mark that is not stored.
-/

namespace PerfTimeline

/-- Why a call fails. -/
inductive TimelineError where
  | invalidEntryType (given : String)
  | markNotFound (name : String)
deriving DecidableEq

/-- The error in words. -/
def TimelineError.message : TimelineError → String
  | invalidEntryType given => "Invalid entry type: " ++ given
  | markNotFound name => "The mark '" ++ name ++ "' does not exist."

end PerfTimeline
