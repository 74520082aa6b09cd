import PerfTimeline.Binary64

/-!
# The shortest decimal of a number

Of the decimals that read back as a number, the shortest is the one on the coarsest grid `10 ^ k`; if the
grid has two such points the nearer is taken, and of two equally near ones the even.

A positive number `m * 2 ^ q` stands for all reals between its two rounding bounds, halfway to its
neighbours. Counted in quarters of `2 ^ q` the number is `4 * m`, its upper bound `4 * m + 2`, and its lower
bound `4 * m - 2`, or `4 * m - 1` where the neighbour below is only half as far. The bounds themselves belong
to the number when `m` is even. All comparisons are exact, in natural numbers.
-/

namespace PerfTimeline

/-- The decimal `significand * 10 ^ exponent`. -/
structure Decimal where
  significand : Nat
  exponent : Int
deriving DecidableEq

namespace Decimal

/-! ### Taking a number apart -/

/-- The number `significand * 2 ^ exponent`. -/
structure Binary where
  significand : Nat
  exponent : Int
  /-- Whether the neighbour below is only half as far as the one above. -/
  closeBelow : Bool
deriving DecidableEq

/-- The magnitude of a finite number. -/
def Binary.ofFloat (x : Float) : Binary :=
  let exponent := exponentField x
  if exponent = 0 then ⟨fractionField x, -1074, false⟩
  else
    ⟨exponentUnit + fractionField x, (exponent : Int) - 1075, fractionField x == 0 && exponent != 1⟩

/-! ### One grid -/

/-- A number and its bounds on one grid, all measured in a unit that makes them whole. -/
structure Scaled where
  /-- The distance of two grid points. -/
  step : Nat
  value : Nat
  lower : Nat
  upper : Nat
  /-- Whether the bounds read back as the number too. -/
  inclusive : Bool

/-- The number on the grid `10 ^ k`. -/
def Binary.scaled (b : Binary) (k : Int) : Scaled :=
  let quarter := b.exponent - 2
  let unit := Nat.pow 2 quarter.toNat * Nat.pow 10 (-k).toNat
  { step := Nat.pow 10 k.toNat * Nat.pow 2 (-quarter).toNat
    value := 4 * b.significand * unit
    lower := (4 * b.significand - if b.closeBelow then 1 else 2) * unit
    upper := (4 * b.significand + 2) * unit
    inclusive := b.significand % 2 = 0 }

/-- Whether grid point `n` reads back as the number. -/
def Scaled.readsBack (s : Scaled) (n : Nat) : Bool :=
  let point := n * s.step
  if s.inclusive then s.lower ≤ point && point ≤ s.upper else s.lower < point && point < s.upper

/-- The grid point that reads back as the number, if there is one: of two the nearer, of two equally near
ones the even. Only the two neighbours of the number come into question. -/
def Scaled.point? (s : Scaled) : Option Nat :=
  let below := s.value / s.step
  let above := below + 1
  match s.readsBack below, s.readsBack above with
  | false, false => none
  | true, false => some below
  | false, true => some above
  | true, true =>
    let down := s.value - below * s.step
    let up := above * s.step - s.value
    if down < up then some below
    else if up < down then some above
    else if below % 2 = 0 then some below else some above

/-! ### The search -/

/-- The number of decimal digits of `n`. -/
def digitCount (n : Nat) : Nat := (Nat.toDigits 10 n).length

/-- Numbers times ten to this power are at least one. -/
def leadingShift : Nat := 400

/-- The exponent of the leading decimal digit of a positive number. -/
def Binary.leading (b : Binary) : Int :=
  let above := b.significand * Nat.pow 2 b.exponent.toNat * Nat.pow 10 leadingShift
  (digitCount (above / Nat.pow 2 (-b.exponent).toNat) : Int) - leadingShift - 1

/-- The shortest decimal of a positive number. Seventeen digits always suffice, so the search over the
eighteen grids from the leading digit down finds a point. -/
def Binary.shortest (b : Binary) : Decimal :=
  let top := b.leading + 1
  let grids := (List.range 18).map fun (i : Nat) => top - i
  (grids.findSome? fun k => (b.scaled k).point?.map (⟨·, k⟩)).getD ⟨0, 0⟩

/-- The shortest decimal of the magnitude of a finite number. -/
def ofFloat (x : Float) : Decimal :=
  let b := Binary.ofFloat x
  if b.significand = 0 then ⟨0, 0⟩ else b.shortest

end Decimal

end PerfTimeline
