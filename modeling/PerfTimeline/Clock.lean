import PerfTimeline.Time

/-!
# Clocks

A fixed clock shows the same time until it is set or moved. A running clock shows how long it has been since
the time origin.
-/

namespace PerfTimeline

/-- A clock that only moves when told to. -/
structure Clock where
  now : TimeStamp := .zero
deriving DecidableEq

namespace Clock

/-- Set the clock. -/
def set (_ : Clock) (now : TimeStamp) : Clock := ⟨now⟩

/-- Move the clock by a number of milliseconds, which may be negative. -/
def advance (c : Clock) (millis : Float) : Clock := ⟨⟨c.now.millis + millis⟩⟩

/-- What a running clock shows when a number of nanoseconds has passed since the time origin. -/
def reading (nanoseconds : Nat) : TimeStamp :=
  ⟨(nanoseconds / 1000000000).toFloat * 1000.0 + (nanoseconds % 1000000000).toFloat / 1000000.0⟩

end Clock

end PerfTimeline
