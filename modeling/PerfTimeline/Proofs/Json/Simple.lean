import PerfTimeline.Json.Decode
import PerfTimeline.Proofs.Json.Written

/-!
# Simple values, written and read

Whatever the writers make is in proper form, and the readers of simple values give back what was written.

For floating-point numbers this is not so in general: reading scales the first digits by powers of ten, which
rounds more than once, so that some numbers come back as a neighbour. `Numeral.ReadsBack` holds of the others.
-/

namespace PerfTimeline

/-! ### Decimals -/

namespace Decimal

theorem Scaled.readsBack_of_point? {s : Scaled} {n : Nat} (h : s.point? = some n) :
    s.readsBack n = true := by
  unfold Scaled.point? at h
  dsimp only at h
  split at h <;> grind

/-- Zero reads back as no number but itself. -/
theorem Binary.point?_pos {b : Binary} (hb : b.significand ≠ 0) {k : Int} {n : Nat}
    (h : (b.scaled k).point? = some n) : n ≠ 0 := by
  have hback := Scaled.readsBack_of_point? h
  have hlower : 0 < (b.scaled k).lower := by
    have hpow : 0 < Nat.pow 2 (b.exponent - 2).toNat * Nat.pow 10 (-k).toNat :=
      Nat.mul_pos (Nat.pow_pos (by decide)) (Nat.pow_pos (by decide))
    apply Nat.mul_pos _ hpow
    split <;> omega
  intro hn
  rw [hn, Scaled.readsBack] at hback
  simp at hback
  omega

theorem Binary.shortest_cases (b : Binary) :
    b.shortest = ⟨0, 0⟩ ∨ ∃ k n, (b.scaled k).point? = some n ∧ b.shortest = ⟨n, k⟩ := by
  unfold shortest
  dsimp only
  generalize (List.range 18).map (fun (i : Nat) => b.leading + 1 - i) = grids
  cases hfound : grids.findSome? fun k => (b.scaled k).point?.map fun n => (⟨n, k⟩ : Decimal) with
  | none => exact .inl rfl
  | some d =>
    obtain ⟨k, -, hk⟩ := List.exists_of_findSome?_eq_some hfound
    obtain ⟨n, hn, hd⟩ := Option.map_eq_some_iff.mp hk
    exact .inr ⟨k, n, hn, hd.symm⟩

/-- A number that has no digit but zeros is written as `0` itself. -/
theorem exponent_ofFloat {x : Float} (h : (ofFloat x).significand = 0) : (ofFloat x).exponent = 0 := by
  unfold ofFloat at h ⊢
  dsimp only at h ⊢
  split at h
  · next hz => rw [if_pos hz]
  · next hz =>
    rw [if_neg hz]
    obtain hzero | ⟨k, n, hn, hd⟩ := (Binary.ofFloat x).shortest_cases
    · rw [hzero]
    · rw [hd] at h
      exact absurd h (Binary.point?_pos hz hn)

end Decimal

namespace Json

/-! ### Numerals in proper form -/

theorem Digit.ofNat_zero : Digit.ofNat 0 = [0] := by
  rw [Digit.ofNat]
  rfl

theorem Digit.ofNat_ne_nil (n : Nat) : Digit.ofNat n ≠ [] := by
  rw [Digit.ofNat]
  split <;> simp

theorem Digit.ofNat_eq_cons {n : Nat} (h : n ≠ 0) : ∃ d ds, Digit.ofNat n = d :: ds ∧ d ≠ 0 := by
  fun_induction Digit.ofNat n with
  | case1 n hlt => exact ⟨_, [], rfl, fun hd => h (congrArg Fin.val hd)⟩
  | case2 n hge ih =>
    obtain ⟨d, ds, hds, hd⟩ := ih (by omega)
    exact ⟨d, ds ++ _, by rw [hds, List.cons_append], hd⟩

theorem Digit.ofNat_whole (n : Nat) :
    Digit.ofNat n = [0] ∨ ∃ d ds, Digit.ofNat n = d :: ds ∧ d ≠ 0 := by
  by_cases hn : n = 0
  · exact .inl (by rw [hn, ofNat_zero])
  · exact .inr (ofNat_eq_cons hn)

namespace Numeral

theorem isProper_ofNat (n : Nat) : (ofNat n).IsProper where
  whole := Digit.ofNat_whole n
  exponent := fun e he => by cases he

theorem isProper_ofDecimal (negative : Bool) {d : Decimal} (h : d.significand = 0 → d.exponent = 0) :
    (ofDecimal negative d).IsProper := by
  -- the first digit is a zero only where the number is zero, and then it is the only one
  have hdigits : (Digit.ofNat d.significand = [0] ∧ d.exponent = 0) ∨
      ∃ c cs, Digit.ofNat d.significand = c :: cs ∧ c ≠ 0 := by
    by_cases hz : d.significand = 0
    · exact .inl ⟨by rw [hz, Digit.ofNat_zero], h hz⟩
    · exact .inr (Digit.ofNat_eq_cons hz)
  constructor
  case whole =>
    unfold ofDecimal
    obtain ⟨hd, he⟩ | ⟨c, cs, hd, hc⟩ := hdigits
    · left
      simp [hd, he, leastPositional, firstScientific]
    · simp only [hd]
      split
      · split
        · exact .inr ⟨c, _, by rw [List.cons_append], hc⟩
        · split
          · exact .inr ⟨c, _, by rw [List.take_succ_cons], hc⟩
          · exact .inl rfl
      · exact .inr ⟨c, [], rfl, hc⟩
  case exponent =>
    intro e he
    unfold ofDecimal at he
    dsimp only at he
    split at he
    · split at he
      · cases he
      · split at he <;> cases he
    · cases he
      exact Digit.ofNat_ne_nil _

theorem isProper_ofFloat (x : Float) : (ofFloat x).IsProper :=
  isProper_ofDecimal _ Decimal.exponent_ofFloat

/-! ### Numbers that come back -/

/-- The text of a number is read as that very number. -/
def ReadsBack (x : Float) : Prop := (ofFloat x).number?.map Number.toFloat = some x

instance (x : Float) : Decidable (ReadsBack x) :=
  inferInstanceAs (Decidable ((ofFloat x).number?.map Number.toFloat = some x))

/-- All of these numbers are finite and come back from their text. -/
def AllExact (xs : List Float) : Prop := ∀ x ∈ xs, isFinite x = true ∧ ReadsBack x

theorem number?_ofNat {n : Nat} (h : n ≤ maxSignificand) : (ofNat n).number? = some (.nat n) := by
  simp [number?, ofNat, Digit.toNat_ofNat, h]

end Numeral

/-! ### Strings -/

theorem Piece.isProper_pieceOf (c : Char) : (RawText.pieceOf c).IsProper := by
  unfold RawText.pieceOf
  split
  · next h =>
    show c ∈ shortEscapes.map (·.1)
    obtain rfl | rfl | rfl | rfl | rfl | rfl | rfl := h <;> decide
  · next h =>
    split
    · show c.toNat < 0x10000
      omega
    · exact ⟨by grind, by grind, by omega⟩

theorem RawText.isProper_ofString (s : String) : (RawText.ofString s).IsProper where
  flawless := rfl
  pieces := by
    intro p hp
    obtain ⟨c, -, rfl⟩ := List.mem_map.mp hp
    exact Piece.isProper_pieceOf c

namespace Value

@[simp] theorem ofOption_none {α : Type} (f : α → Value) : ofOption f none = .null := rfl

@[simp] theorem ofOption_some {α : Type} (f : α → Value) (a : α) : ofOption f (some a) = f a := rfl

theorem ofOption_map {α β : Type} (f : β → Value) (g : α → β) (o : Option α) :
    ofOption f (o.map g) = ofOption (fun a => f (g a)) o := by
  cases o <;> rfl

/-! ### Values in proper form -/

theorem isProper_ofString (s : String) : (ofString s).IsProper := RawText.isProper_ofString s

theorem isProper_ofNat (n : Nat) : (ofNat n).IsProper := Numeral.isProper_ofNat n

theorem isProper_ofFloat (x : Float) : (ofFloat x).IsProper := by
  unfold ofFloat
  split
  · exact Numeral.isProper_ofFloat x
  · trivial

theorem isProper_ofList {vs : List Value} (h : ∀ v ∈ vs, v.IsProper) : (ofList vs).IsProper := by
  show AllProper vs
  induction vs with
  | nil => trivial
  | cons v vs ih =>
    exact ⟨h v List.mem_cons_self, ih fun w hw => h w (List.mem_cons_of_mem v hw)⟩

theorem isProper_ofMembers {members : List (String × Value)} (h : ∀ m ∈ members, m.2.IsProper) :
    (ofMembers members).IsProper := by
  show MembersProper (members.map _)
  induction members with
  | nil => trivial
  | cons m ms ih =>
    exact ⟨RawText.isProper_ofString m.1, h m List.mem_cons_self,
      ih fun w hw => h w (List.mem_cons_of_mem m hw)⟩

/-! ### Reading what was written -/

variable {x : Float}

@[simp] theorem string_ofString (s : String) : (ofString s).string = .ok s := by
  simp [string, ofString, RawText.read_ofString, Read.ofFlaw]

theorem integer_ofNat {n limit : Nat} (hn : n ≤ limit) (hlimit : limit ≤ Numeral.maxSignificand)
    (expected : String) : integer limit expected (ofNat n) = .ok n := by
  simp [integer, ofNat, numberOf, Numeral.number?_ofNat (Nat.le_trans hn hlimit), hn]

@[simp] theorem word32_ofNat (n : UInt32) : (ofNat n.toNat).word32 = .ok n := by
  have hn : n.toNat ≤ 0xffffffff := by have := n.toNat_lt; omega
  simp [word32, integer_ofNat hn (by decide), Except.map]

@[simp] theorem word16_ofNat (n : UInt16) : (ofNat n.toNat).word16 = .ok n := by
  have hn : n.toNat ≤ 0xffff := by have := n.toNat_lt; omega
  simp [word16, integer_ofNat hn (by decide), Except.map]

theorem float_ofFloat (hx : isFinite x = true) (hback : Numeral.ReadsBack x) :
    (ofFloat x).float = .ok x := by
  obtain ⟨n, hn, hnx⟩ := Option.map_eq_some_iff.mp hback
  simp [ofFloat, hx, float, numberOf, hn, hnx, Except.map]

/-- A number that is not finite is written as `null`, where a number is expected in vain. -/
theorem float_ofFloat_of_not_finite (hx : isFinite x = false) :
    (ofFloat x).float = .error (.cause (.wrongKind .null "f64")) := by
  simp [ofFloat, hx, float, mismatch, found]

/-- Where a value may be absent, a number that is not finite is. -/
theorem optional_float_ofFloat (hback : isFinite x = true → Numeral.ReadsBack x) :
    optional float (ofFloat x) = .ok ((some x).filter isFinite) := by
  cases hx : isFinite x with
  | true =>
    have hread := float_ofFloat hx (hback hx)
    simp only [ofFloat, hx, if_true] at hread ⊢
    simp [optional, hread, Except.map, hx, Option.filter]
  | false => simp [ofFloat, hx, optional, Option.filter]

theorem optional_word32_ofNat (n : UInt32) : optional word32 (ofNat n.toNat) = .ok (some n) := by
  show (word32 (ofNat n.toNat)).map some = _
  rw [word32_ofNat]
  rfl

theorem optional_word16_ofNat (n : UInt16) : optional word16 (ofNat n.toNat) = .ok (some n) := by
  show (word16 (ofNat n.toNat)).map some = _
  rw [word16_ofNat]
  rfl

/-! ### Passing over what was written -/

theorem hold_ofString (s : String) (depth : Nat) : (ofString s).hold depth = .ok () := by
  rw [ofString, hold, RawText.read_ofString]
  rfl

theorem hold_ofNat {n : Nat} (h : n ≤ Numeral.maxSignificand) (depth : Nat) :
    (ofNat n).hold depth = .ok () := by
  simp [ofNat, hold, Numeral.number?_ofNat h]

theorem hold_ofFloat (hback : isFinite x = true → Numeral.ReadsBack x) (depth : Nat) :
    (ofFloat x).hold depth = .ok () := by
  cases hx : isFinite x with
  | true =>
    obtain ⟨n, hn, -⟩ := Option.map_eq_some_iff.mp (hback hx)
    simp [ofFloat, hx, hold, hn]
  | false => simp [ofFloat, hx, hold]

end Value

end Json

end PerfTimeline
