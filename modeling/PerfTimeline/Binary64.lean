/-!
# The bits of numbers

Numbers are 64-bit floating-point numbers: a sign bit, eleven bits of exponent and fifty-two bits of
fraction. `orderKey` orders all of them, `-∞ < … < -0.0 < 0.0 < … < ∞ < NaN`, and tells all of them apart.
-/

namespace PerfTimeline

/-- The value of the sign bit. -/
def signBit : Nat := 0x8000000000000000

/-- The value of the lowest bit of the exponent. -/
def exponentUnit : Nat := 0x10000000000000

/-- The exponent field with all bits set, which marks infinities and NaN. -/
def maxExponentField : Nat := 0x7ff

/-- Whether the sign bit of a number is set. -/
def isNegative (x : Float) : Bool := signBit ≤ x.toBits.toNat

/-- The eleven bits of exponent. -/
def exponentField (x : Float) : Nat := x.toBits.toNat / exponentUnit % 0x800

/-- The fifty-two bits of fraction. -/
def fractionField (x : Float) : Nat := x.toBits.toNat % exponentUnit

/-- Whether a number is neither infinite nor NaN. -/
def isFinite (x : Float) : Bool := exponentField x != maxExponentField

/-! ### The total order -/

/-- The integer that orders `x` among all numbers: the bit pattern where the sign bit is clear, and the
pattern counted down from `-1` where it is set. -/
def orderKey (x : Float) : Int :=
  let bits := x.toBits.toNat
  if bits < signBit then bits else (signBit : Int) - 1 - bits

/-- A number is known from its bits. -/
theorem toBits_inj {x y : Float} (h : x.toBits = y.toBits) : x = y := by
  cases x with | ofModel a =>
  cases y with | ofModel b =>
  cases a with | mk a ha =>
  cases b with | mk b hb =>
  have hab : a = b := h
  subst hab
  rfl

theorem orderKey_injective {x y : Float} (h : orderKey x = orderKey y) : x = y := by
  have hx := x.toBits.toNat_lt
  have hy := y.toBits.toNat_lt
  apply toBits_inj
  apply UInt64.toNat_inj.mp
  unfold orderKey signBit at h
  dsimp only at h
  split at h <;> split at h <;> omega

end PerfTimeline
