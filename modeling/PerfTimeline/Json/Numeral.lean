import PerfTimeline.Decimal.Shortest

/-!
# Numerals

A numeral is a number as it is written. `Numeral.number?` gives its value: an integer where it is written as
one and fits in 64 bits, and else a floating-point number, which is read by scaling the first digits that
fit in 64 bits with powers of ten. `Numeral.ofFloat` writes a finite number with the fewest digits that
stand for it: positional from `1e-5` to below `1e16`, always with a digit behind the point, and scientific
with a signed exponent otherwise.
-/

namespace PerfTimeline.Json

/-- A decimal digit. -/
abbrev Digit := Fin 10

/-- The digit written as `c`, if it is one. -/
def Digit.ofChar? (c : Char) : Option Digit :=
  if h : '0' ≤ c ∧ c ≤ '9' then
    some ⟨c.toNat - 48, by
      have h2 : c.toNat ≤ 57 := h.2
      omega⟩
  else none

/-- The character of a digit. -/
def Digit.toChar (d : Digit) : Char := Char.ofNat (48 + d.val)

/-- The number that digits stand for. -/
def Digit.toNat (ds : List Digit) : Nat := ds.foldl (fun n d => 10 * n + d.val) 0

/-- The digits of a number, the last one behind those of its tenth. -/
def Digit.ofNat (n : Nat) : List Digit :=
  if h : n < 10 then [⟨n, h⟩] else Digit.ofNat (n / 10) ++ [⟨n % 10, Nat.mod_lt n (by decide)⟩]

theorem Digit.ofChar?_toChar (d : Digit) : Digit.ofChar? d.toChar = some d := by
  have key : ∀ n (h : n < 10), ofChar? (toChar ⟨n, h⟩) = some ⟨n, h⟩ := by decide
  exact key d.val d.isLt

theorem Digit.toNat_append (ds : List Digit) (d : Digit) :
    Digit.toNat (ds ++ [d]) = 10 * Digit.toNat ds + d.val := by
  simp [Digit.toNat]

/-- The digits of a number stand for it. -/
theorem Digit.toNat_ofNat (n : Nat) : Digit.toNat (Digit.ofNat n) = n := by
  fun_induction Digit.ofNat n with
  | case1 n h => simp [Digit.toNat]
  | case2 n h ih => rw [Digit.toNat_append, ih]; simp only; omega

/-- The exponent part of a numeral. -/
structure Exponent where
  negative : Bool
  digits : List Digit
deriving DecidableEq

/-- A number as it is written. -/
structure Numeral where
  negative : Bool := false
  whole : List Digit
  /-- The digits behind the point; without any there is no point. -/
  fraction : List Digit := []
  exponent : Option Exponent := none
deriving DecidableEq

/-- The value of a numeral. -/
inductive Number where
  /-- A whole number below `2 ^ 64`. -/
  | nat (n : Nat)
  /-- The number `-n`, for `n` from `1` to `2 ^ 63`. -/
  | negative (n : Nat)
  | real (x : Float)
deriving DecidableEq

/-- The number in floating point. -/
def Number.toFloat : Number → Float
  | nat n => n.toUInt64.toFloat
  | negative n => -n.toUInt64.toFloat
  | real x => x

namespace Numeral

/-! ### Reading -/

/-- The greatest significand that reading keeps exact. -/
def maxSignificand : Nat := 0xffffffffffffffff

/-- The greatest exponent that is looked at digit by digit. -/
def maxExponent : Nat := 0x7fffffff

/-- The greatest `n` for which `-n` counts as an integer. -/
def maxNegative : Nat := 0x8000000000000000

/-- Take digits into a significand as long as it stays exact. Gives the significand and how many digits
went into it. -/
def absorb (significand : Nat) : List Digit → Nat × Nat
  | [] => (significand, 0)
  | d :: ds =>
    if 10 * significand + d.val ≤ maxSignificand then
      let (s, n) := absorb (10 * significand + d.val) ds
      (s, n + 1)
    else (significand, 0)

/-- A power of ten, for exponents up to `308`. -/
def pow10 (n : Nat) : Float := Float.ofScientific 1 false n

/-- Divide by `10 ^ n`, in steps that stay within the range of powers; zero stays as it is. -/
def scaleDown (x : Float) (n : Nat) : Float :=
  if n ≤ 308 then x / pow10 n
  else if x == 0 then x
  else scaleDown (x / pow10 308) (n - 308)
termination_by n

/-- Multiply by `10 ^ exponent`; nothing where the result is too great for a number. -/
def scale? (x : Float) (exponent : Int) : Option Float :=
  if exponent < 0 then some (scaleDown x exponent.natAbs)
  else if exponent ≤ 308 then
    let scaled := x * pow10 exponent.toNat
    if isFinite scaled then some scaled else none
  else if x == 0 then some x
  else none

/-- The floating-point value of a numeral; nothing where it is too great. An exponent beyond 32 bits makes
any number too great or zero. -/
def real? (n : Numeral) : Option Float := do
  let (significand, kept) := absorb 0 n.whole
  let (significand, behind) := absorb significand n.fraction
  let place : Int := (n.whole.length - kept : Nat) - behind
  let x := significand.toUInt64.toFloat
  let magnitude ← match n.exponent with
    | none => scale? x place
    | some e =>
      let size := Digit.toNat e.digits
      if size ≤ maxExponent then scale? x (if e.negative then place - size else place + size)
      else if significand = 0 ∨ e.negative then some 0
      else none
  return if n.negative then -magnitude else magnitude

/-- The value of a numeral; nothing where it is too great for a number. -/
def number? (n : Numeral) : Option Number :=
  let size := Digit.toNat n.whole
  if n.fraction = [] ∧ n.exponent = none then
    if n.negative then
      if size = 0 ∨ maxNegative < size then n.real?.map .real else some (.negative size)
    else if size ≤ maxSignificand then some (.nat size)
    else n.real?.map .real
  else n.real?.map .real

/-! ### Writing -/

/-- The numeral of a whole number. -/
def ofNat (n : Nat) : Numeral := { whole := Digit.ofNat n }

/-- Scientific notation begins at this exponent of the leading digit. -/
def firstScientific : Int := 16

/-- The least exponent of the leading digit that is still written positionally. -/
def leastPositional : Int := -5

/-- Write a decimal. -/
def ofDecimal (negative : Bool) (d : Decimal) : Numeral :=
  let digits := Digit.ofNat d.significand
  let leading : Int := d.exponent + digits.length - 1
  if leastPositional ≤ leading ∧ leading < firstScientific then
    if 0 ≤ d.exponent then
      { negative, whole := digits ++ List.replicate d.exponent.toNat 0, fraction := [0] }
    else if 0 ≤ leading then
      let split := leading.toNat + 1
      { negative, whole := digits.take split, fraction := digits.drop split }
    else
      { negative, whole := [0], fraction := List.replicate (-leading - 1).toNat 0 ++ digits }
  else
    { negative, whole := digits.take 1, fraction := digits.drop 1,
      exponent := some ⟨leading < 0, Digit.ofNat leading.natAbs⟩ }

/-- The numeral of a finite number. -/
def ofFloat (x : Float) : Numeral := ofDecimal (isNegative x) (Decimal.ofFloat x)

/-! ### Text -/

/-- The characters of digits. -/
def digitChars (ds : List Digit) : List Char := ds.map Digit.toChar

/-- The characters of a numeral. -/
def print (n : Numeral) : List Char :=
  (if n.negative then ['-'] else []) ++ digitChars n.whole ++
    (if n.fraction = [] then [] else '.' :: digitChars n.fraction) ++
    match n.exponent with
    | none => []
    | some e => 'e' :: (if e.negative then '-' else '+') :: digitChars e.digits

end Numeral

/-- The text of a number: an integer in full, a floating-point number as `Numeral.ofFloat` writes it. -/
def Number.text : Number → String
  | nat n => String.ofList (Numeral.ofNat n).print
  | negative n => String.ofList ('-' :: (Numeral.ofNat n).print)
  | real x => String.ofList (Numeral.ofFloat x).print

end PerfTimeline.Json
