import PerfTimeline.Binary64

/-!
# Time stamps and durations

Times are 64-bit floating-point milliseconds: a stamp counts from the time origin, a duration is the
distance of two stamps. Both are ordered totally, by `orderKey`, so that every list of entries has one
sorted order: `-∞ < … < -0.0 < 0.0 < … < ∞ < NaN`, where NaN equals NaN. Equality is equality of the
numbers themselves, which tells the two zeros apart.
-/

namespace PerfTimeline

/-! ### Stamps and durations -/

/-- A point in time, in milliseconds since the time origin. -/
structure TimeStamp where
  millis : Float
deriving DecidableEq

/-- A length of time in milliseconds; it may be negative. -/
structure Duration where
  millis : Float
deriving DecidableEq

namespace TimeStamp

/-- The time origin itself. -/
def zero : TimeStamp := ⟨0.0⟩

/-- The key that orders stamps. -/
def key (t : TimeStamp) : Int := orderKey t.millis

instance : Inhabited TimeStamp := ⟨zero⟩
instance : Ord TimeStamp := ⟨fun a b => compare a.key b.key⟩
instance : LT TimeStamp := ⟨fun a b => a.key < b.key⟩
instance : LE TimeStamp := ⟨fun a b => a.key ≤ b.key⟩
instance (a b : TimeStamp) : Decidable (a < b) := inferInstanceAs (Decidable (a.key < b.key))
instance (a b : TimeStamp) : Decidable (a ≤ b) := inferInstanceAs (Decidable (a.key ≤ b.key))

instance : HAdd TimeStamp Duration TimeStamp := ⟨fun t d => ⟨t.millis + d.millis⟩⟩
instance : HSub TimeStamp TimeStamp Duration := ⟨fun a b => ⟨a.millis - b.millis⟩⟩

theorem key_inj {a b : TimeStamp} : a.key = b.key ↔ a = b :=
  ⟨fun h => by cases a; cases b; exact congrArg TimeStamp.mk (orderKey_injective h),
   fun h => by rw [h]⟩

end TimeStamp

namespace Duration

/-- The empty length of time. -/
def zero : Duration := ⟨0.0⟩

/-- The key that orders durations. -/
def key (d : Duration) : Int := orderKey d.millis

instance : Inhabited Duration := ⟨zero⟩
instance : Ord Duration := ⟨fun a b => compare a.key b.key⟩
instance : LE Duration := ⟨fun a b => a.key ≤ b.key⟩
instance (a b : Duration) : Decidable (a ≤ b) := inferInstanceAs (Decidable (a.key ≤ b.key))

end Duration

end PerfTimeline
