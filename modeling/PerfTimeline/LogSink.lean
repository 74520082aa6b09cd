/-!
# The log sink

A process has one place that its trace events go to. The first one to install a sink wins; a later attempt
is refused and changes nothing.
-/

namespace PerfTimeline

/-- The filter of the installed sink, if there is one. -/
structure LogSink where
  filter : Option String := none
deriving DecidableEq

/-- Install a sink unless there is one already. The second part says whether it was installed. -/
def LogSink.install (s : LogSink) (filter : String) : LogSink × Bool :=
  match s.filter with
  | none => (⟨some filter⟩, true)
  | some _ => (s, false)

end PerfTimeline
