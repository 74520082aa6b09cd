/-!
# Flaws of a text

Where a text stops being JSON it is either malformed, by a character that cannot stand there, or truncated:
it ends too early.
-/

namespace PerfTimeline.Json

/-- What stops a text from being JSON. -/
inductive Flaw where
  | malformed
  | truncated
deriving DecidableEq, Repr

end PerfTimeline.Json
