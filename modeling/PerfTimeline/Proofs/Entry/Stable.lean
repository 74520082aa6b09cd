import Mathlib.Data.List.Nodup
import Mathlib.Data.List.Perm.Basic
import Mathlib.Data.Prod.Lex
import Mathlib.Tactic.MkIffOfInductiveProp
import PerfTimeline.Entry.Order

/-!
# Sorting is stable

Entries are sorted by a key, the bits of their start and then their number. Sorting by a key keeps entries that
agree in it as they stood, and there is no other list in order that does (`eq_of_filter_key`), so the sorted list
depends on no more than this, and leaving some out before or after sorting comes to the same. Floating-point
numbers are ordered by all of their bits: `BitsBefore` is the total order of bit patterns, and it leaves no two
patterns unordered. Under different numbers each entry stands strictly before all later ones, so that whoever
sorts the same entries gets the same list.
-/

namespace PerfTimeline

/-! ### Sorting by a key -/

section Key

variable {α κ : Type} [LinearOrder κ] {key : α → κ} {as bs : List α}

def sortBy (key : α → κ) (as : List α) : List α := as.mergeSort fun a b => key a ≤ key b

theorem sortBy_perm (key : α → κ) (as : List α) : (sortBy key as).Perm as := List.mergeSort_perm as _

theorem key_trans (key : α → κ) (a b c : α) (hab : decide (key a ≤ key b) = true)
    (hbc : decide (key b ≤ key c) = true) : decide (key a ≤ key c) = true :=
  decide_eq_true ((of_decide_eq_true hab).trans (of_decide_eq_true hbc))

theorem key_total (key : α → κ) (a b : α) :
    (decide (key a ≤ key b) || decide (key b ≤ key a)) = true := by
  simpa using le_total (key a) (key b)

theorem sortBy_pairwise (key : α → κ) (as : List α) :
    (sortBy key as).Pairwise fun a b => key a ≤ key b :=
  (List.pairwise_mergeSort (key_trans key) (key_total key) as).imp of_decide_eq_true

/-- What has one and the same key keeps its order. -/
theorem filter_sortBy (key : α → κ) (as : List α) (k : κ) :
    (sortBy key as).filter (key · = k) = as.filter (key · = k) := by
  have hsame : (as.filter (key · = k)).Pairwise fun a b => decide (key a ≤ key b) = true := by
    refine List.pairwise_of_forall_mem_list fun a ha b hb => decide_eq_true (le_of_eq ?_)
    rw [of_decide_eq_true (List.mem_filter.mp ha).2, of_decide_eq_true (List.mem_filter.mp hb).2]
  have hsub : (as.filter (key · = k)).Sublist (sortBy key as) :=
    List.sublist_mergeSort (key_trans key) (key_total key) hsame List.filter_sublist
  have hfilter := hsub.filter (key · = k)
  rw [List.filter_filter] at hfilter
  simp only [Bool.and_self] at hfilter
  exact (hfilter.eq_of_length ((sortBy_perm key as).filter _).length_eq.symm).symm

theorem mem_iff_of_filter_key
    (h : ∀ c, as.filter (key · = key c) = bs.filter (key · = key c)) {a : α} : a ∈ as ↔ a ∈ bs := by
  simpa using congrArg (a ∈ ·) (h a)

theorem key_head_le {a b : α} (h : (b :: bs).Pairwise fun a b => key a ≤ key b) (ha : a ∈ b :: bs) :
    key b ≤ key a := by
  rcases List.mem_cons.mp ha with rfl | ha
  · exact le_refl _
  · exact (List.pairwise_cons.mp h).1 a ha

theorem filter_key_tail {a : α}
    (h : ∀ c, (a :: as).filter (key · = key c) = (a :: bs).filter (key · = key c)) (c : α) :
    as.filter (key · = key c) = bs.filter (key · = key c) := by
  have hc := h c
  by_cases hk : key a = key c
  · rw [List.filter_cons_of_pos (by simp [hk]), List.filter_cons_of_pos (by simp [hk])] at hc
    exact (List.cons.inj hc).2
  · rwa [List.filter_cons_of_neg (by simp [hk]), List.filter_cons_of_neg (by simp [hk])] at hc

/-- A list in order is known from those with each key, in their order. -/
theorem eq_of_filter_key (ha : as.Pairwise fun a b => key a ≤ key b)
    (hb : bs.Pairwise fun a b => key a ≤ key b)
    (h : ∀ c, as.filter (key · = key c) = bs.filter (key · = key c)) : as = bs := by
  induction as generalizing bs with
  | nil =>
    refine (List.eq_nil_iff_forall_not_mem.mpr fun b hmem => ?_).symm
    exact List.not_mem_nil ((mem_iff_of_filter_key h).mpr hmem)
  | cons a as ih =>
    cases bs with
    | nil => exact absurd ((mem_iff_of_filter_key h).mp List.mem_cons_self) List.not_mem_nil
    | cons b bs =>
      -- Both heads have the least key there is, so each is the first with that key.
      have hkey : key b = key a := le_antisymm
        (key_head_le hb ((mem_iff_of_filter_key h).mp List.mem_cons_self))
        (key_head_le ha ((mem_iff_of_filter_key h).mpr List.mem_cons_self))
      have hfirst := h a
      rw [List.filter_cons_of_pos (by simp), List.filter_cons_of_pos (by simp [hkey])] at hfirst
      obtain rfl := (List.cons.inj hfirst).1
      rw [ih (List.pairwise_cons.mp ha).2 (List.pairwise_cons.mp hb).2 (filter_key_tail h)]

/-- It makes no difference whether some are left out before or after sorting. -/
theorem filter_sortBy_comm (key : α → κ) (as : List α) (shown : α → Bool) :
    (sortBy key as).filter shown = sortBy key (as.filter shown) := by
  refine eq_of_filter_key ((sortBy_pairwise key as).filter shown) (sortBy_pairwise key _) fun c => ?_
  rw [filter_sortBy, List.filter_comm, filter_sortBy, List.filter_comm]

/-- Where no two have the same key they are in strict order. -/
theorem sortBy_strict (h : (as.map key).Nodup) : (sortBy key as).Pairwise fun a b => key a < key b := by
  have hkeys : (sortBy key as).Pairwise fun a b => key a ≠ key b :=
    List.pairwise_map.mp (((sortBy_perm key as).map key).nodup_iff.mpr h)
  exact ((sortBy_pairwise key as).and hkeys).imp fun hab => lt_of_le_of_ne hab.1 hab.2

theorem sortBy_sortBy (key : α → κ) (as : List α) : sortBy key (sortBy key as) = sortBy key as :=
  List.mergeSort_of_pairwise ((sortBy_pairwise key as).imp decide_eq_true)

/-- Where no two have the same key it does not matter how they stood. -/
theorem sortBy_eq_of_perm (hp : as.Perm bs) (h : (as.map key).Nodup) : sortBy key as = sortBy key bs := by
  have hsorted : (sortBy key as).Perm (sortBy key bs) :=
    ((sortBy_perm key as).trans hp).trans (sortBy_perm key bs).symm
  refine hsorted.eq_of_pairwise (fun a b ha hb hab hba => ?_) (sortBy_pairwise key as)
    (sortBy_pairwise key bs)
  have ha : a ∈ as := (sortBy_perm key as).mem_iff.mp ha
  have hb : b ∈ as := hp.mem_iff.mpr ((sortBy_perm key bs).mem_iff.mp hb)
  exact List.inj_on_of_nodup_map h ha hb (le_antisymm hab hba)

end Key

/-! ### The order of bits -/

def IsSigned (bits : UInt64) : Prop := signBit ≤ bits.toNat

/-- Exponent and fraction. -/
def magnitude (bits : UInt64) : Nat := bits.toNat % signBit

/-- The total order of floating-point numbers, by their bits alone. -/
@[mk_iff]
inductive BitsBefore (a b : UInt64) : Prop
  | signs (ha : IsSigned a) (hb : ¬IsSigned b)
  | ascending (ha : ¬IsSigned a) (hb : ¬IsSigned b) (h : magnitude a < magnitude b)
  | descending (ha : IsSigned a) (hb : IsSigned b) (h : magnitude b < magnitude a)

/-- The integer that orders a bit pattern among all. -/
def bitsKey (bits : UInt64) : Int :=
  if bits.toNat < signBit then bits.toNat else (signBit : Int) - 1 - bits.toNat

variable {a b bits : UInt64}

theorem bitsKey_inj : bitsKey a = bitsKey b ↔ a = b := by
  refine ⟨fun h => UInt64.toNat_inj.mp ?_, fun h => by rw [h]⟩
  have ha := a.toNat_lt
  have hb := b.toNat_lt
  unfold bitsKey signBit at h
  split at h <;> split at h <;> omega

theorem bitsKey_of_isSigned (h : IsSigned bits) : bitsKey bits = -1 - magnitude bits := by
  have hlt := bits.toNat_lt
  rw [bitsKey, if_neg (Nat.not_lt.mpr h), magnitude]
  unfold IsSigned signBit at *
  omega

theorem bitsKey_of_not_isSigned (h : ¬IsSigned bits) : bitsKey bits = magnitude bits := by
  have hlt : bits.toNat < signBit := Nat.not_le.mp h
  rw [bitsKey, if_pos hlt, magnitude, Nat.mod_eq_of_lt hlt]

theorem bitsKey_lt_iff : bitsKey a < bitsKey b ↔ BitsBefore a b := by
  by_cases ha : IsSigned a <;> by_cases hb : IsSigned b <;> rw [bitsBefore_iff]
  · simp only [ha, hb, bitsKey_of_isSigned, not_true_eq_false, and_false, false_and, true_and, false_or]
    omega
  · simp only [ha, hb, bitsKey_of_isSigned, bitsKey_of_not_isSigned, not_false_eq_true, true_and, true_or,
      iff_true]
    omega
  · simp only [ha, hb, bitsKey_of_isSigned, bitsKey_of_not_isSigned, not_false_eq_true, not_true_eq_false,
      false_and, and_false, or_false, iff_false]
    omega
  · simp only [ha, hb, bitsKey_of_not_isSigned, not_false_eq_true, and_true, true_and, false_and, false_or,
      or_false]
    omega

example : ([0xfff8000000000000, 0xfff0000000000000, 0x8000000000000000, 0, 0x7ff0000000000000,
    0x7ff8000000000000].map bitsKey).Pairwise (· < ·) := by
  decide

/-! ### Records with a start and a number -/

section Rank

variable {α : Type} {start : α → UInt64} {number : α → Nat} {as bs : List α}

/-- `a` starts before `b`, or at the very same bits under no greater number. -/
def InOrder (start : α → UInt64) (number : α → Nat) (a b : α) : Prop :=
  BitsBefore (start a) (start b) ∨ start a = start b ∧ number a ≤ number b

/-- `a` starts before `b`, or at the very same bits under a smaller number. -/
def Earlier (start : α → UInt64) (number : α → Nat) (a b : α) : Prop :=
  BitsBefore (start a) (start b) ∨ start a = start b ∧ number a < number b

/-- Those that start at `bits` under the number `n`, as they stand. -/
def standingAt (start : α → UInt64) (number : α → Nat) (bits : UInt64) (n : Nat) (as : List α) : List α :=
  as.filter fun a => start a = bits ∧ number a = n

def rank (start : α → UInt64) (number : α → Nat) (a : α) : Int ×ₗ Nat := toLex (bitsKey (start a), number a)

theorem rank_le_iff {a b : α} : rank start number a ≤ rank start number b ↔ InOrder start number a b := by
  rw [rank, rank, Prod.Lex.toLex_le_toLex, bitsKey_lt_iff, bitsKey_inj, InOrder]

theorem rank_lt_iff {a b : α} : rank start number a < rank start number b ↔ Earlier start number a b := by
  rw [rank, rank, Prod.Lex.toLex_lt_toLex, bitsKey_lt_iff, bitsKey_inj, Earlier]

theorem place_eq_of_rank {a b : α} (h : rank start number a = rank start number b) :
    (start a, number a) = (start b, number b) := by
  obtain ⟨hkey, hnumber⟩ := Prod.ext_iff.mp (toLex_inj.mp h)
  exact Prod.ext (bitsKey_inj.mp hkey) hnumber

theorem nodup_rank (h : (as.map number).Nodup) : (as.map (rank start number)).Nodup :=
  List.pairwise_map.mpr ((List.pairwise_map.mp h).imp fun hne heq => hne (Prod.ext_iff.mp (place_eq_of_rank heq)).2)

theorem filter_rank (bits : UInt64) (n : Nat) (as : List α) :
    as.filter (rank start number · = toLex (bitsKey bits, n)) = standingAt start number bits n as := by
  refine List.filter_congr fun a _ => ?_
  simp [rank, bitsKey_inj]

theorem filter_start {n : Nat} (h : ∀ a ∈ as, number a = n) (bits : UInt64) :
    as.filter (start · = bits) = standingAt start number bits n as :=
  List.filter_congr fun a ha => by simp [h a ha]

/-- How a sort by start and number treats every list. -/
structure SortsStably (start : α → UInt64) (number : α → Nat) (sort : List α → List α) : Prop where
  perm (as : List α) : (sort as).Perm as
  ordered (as : List α) : (sort as).Pairwise (InOrder start number)
  stable (as : List α) (bits : UInt64) (n : Nat) :
    standingAt start number bits n (sort as) = standingAt start number bits n as
  /-- No other list is in order and stable. -/
  unique {as bs : List α} (hordered : bs.Pairwise (InOrder start number))
    (hstable : ∀ bits n, standingAt start number bits n bs = standingAt start number bits n as) : bs = sort as
  /-- Under one number, as when none was ever given, the starts alone decide. -/
  byStart {as : List α} {n : Nat} (hn : ∀ a ∈ as, number a = n) :
    ((sort as).Pairwise fun a b => BitsBefore (start a) (start b) ∨ start a = start b) ∧
      ∀ bits, (sort as).filter (start · = bits) = as.filter (start · = bits)
  idempotent (as : List α) : sort (sort as) = sort as
  /-- Parts are put together in any order, each arranged anyhow before, by sorting or otherwise. -/
  merged {parts order arranged : List (List α)}
    (hdistinct : (parts.flatten.map fun a => (start a, number a)).Nodup) (horder : order.Perm parts)
    (harranged : List.Forall₂ List.Perm arranged order) : sort arranged.flatten = sort parts.flatten

theorem standingAt_sortBy (bits : UInt64) (n : Nat) (as : List α) :
    standingAt start number bits n (sortBy (rank start number) as) = standingAt start number bits n as := by
  rw [← filter_rank, ← filter_rank, filter_sortBy]

theorem inOrder_sortBy (start : α → UInt64) (number : α → Nat) (as : List α) :
    (sortBy (rank start number) as).Pairwise (InOrder start number) :=
  (sortBy_pairwise (rank start number) as).imp fun h => rank_le_iff.mp h

/-- This holds of all patterns, those of NaN included. -/
theorem sortsStably_rank (start : α → UInt64) (number : α → Nat) :
    SortsStably start number (sortBy (rank start number)) where
  perm as := sortBy_perm _ as
  ordered as := inOrder_sortBy start number as
  stable as bits n := standingAt_sortBy bits n as
  unique {as bs} hordered hstable := by
    refine eq_of_filter_key (hordered.imp fun h => rank_le_iff.mpr h) (sortBy_pairwise _ as) fun c => ?_
    have hfilter := (hstable (start c) (number c)).trans (standingAt_sortBy (start c) (number c) as).symm
    rwa [← filter_rank, ← filter_rank] at hfilter
  byStart {as n} hn := by
    refine ⟨(inOrder_sortBy start number as).imp fun h => h.imp_right And.left, fun bits => ?_⟩
    have hsorted : ∀ a ∈ sortBy (rank start number) as, number a = n := fun a ha =>
      hn a ((sortBy_perm _ as).mem_iff.mp ha)
    rw [filter_start hn, filter_start hsorted, standingAt_sortBy]
  idempotent as := sortBy_sortBy _ as
  merged {parts order arranged} hdistinct horder harranged := by
    have hperm : parts.flatten.Perm arranged.flatten :=
      ((List.Perm.flatten_congr harranged).trans horder.flatten).symm
    have hranks : (parts.flatten.map (rank start number)).Nodup :=
      List.pairwise_map.mpr ((List.pairwise_map.mp hdistinct).imp fun hne h => hne (place_eq_of_rank h))
    exact (sortBy_eq_of_perm hperm hranks).symm

end Rank

namespace Entry

def startBits (e : Entry) : UInt64 := e.start.millis.toBits

theorem precedes_eq (a b : Entry) :
    precedes a b = decide (rank startBits sequence a ≤ rank startBits sequence b) := by
  rw [Bool.eq_iff_iff, decide_eq_true_iff, rank_le_iff, InOrder, ← bitsKey_lt_iff, ← bitsKey_inj]
  simp only [precedes, Bool.or_eq_true, Bool.and_eq_true, decide_eq_true_eq, beq_iff_eq]
  -- Time stamps are compared by `orderKey`, which is `bitsKey` of their bits.
  exact Iff.rfl

/-- `a` starts before `b`, or together with it under a smaller number. -/
def Before (a b : Entry) : Prop := a.start < b.start ∨ a.start = b.start ∧ a.sequence < b.sequence

theorem before_iff {a b : Entry} : a.Before b ↔ Earlier startBits sequence a b := by
  rw [Before, Earlier, ← TimeStamp.key_inj, ← bitsKey_lt_iff, ← bitsKey_inj]
  exact Iff.rfl

theorem sort_eq_sortBy : sort = sortBy (rank startBits sequence) := by
  funext es
  rw [sort, sortBy, funext₂ precedes_eq]

theorem filter_sort (es : List Entry) (shown : Entry → Bool) :
    (sort es).filter shown = sort (es.filter shown) := by
  rw [sort_eq_sortBy, filter_sortBy_comm]

theorem sort_eq_of_perm {as bs : List Entry} (hp : as.Perm bs) (h : (as.map sequence).Nodup) :
    sort as = sort bs := by
  rw [sort_eq_sortBy]
  exact sortBy_eq_of_perm hp (nodup_rank h)

/-- Entries are sorted stably, by the bits of their start and then by sequence. So would be records that start at
any bits, with all the patterns of NaN, of which a `Float` has one. -/
theorem sorts_stably :
    SortsStably startBits sequence sort ∧
      ∀ {α : Type} (start : α → UInt64) (number : α → Nat),
        SortsStably start number (sortBy (rank start number)) :=
  ⟨sort_eq_sortBy ▸ sortsStably_rank startBits sequence, sortsStably_rank⟩

end Entry

end PerfTimeline
