import PerfTimeline.Json.Value

/-!
# Values that are passed over

Which values are passed over (`skip_eq_ok_iff`), and which can be put aside (`hold_eq_ok_iff`), told by what
they are made of and how deep they nest.
-/

namespace PerfTimeline.Json

variable {α β : Type}

theorem bind_eq_ok_iff {ε : Type} {x : Except ε α} {f : α → Except ε β} {b : β} :
    (x >>= f) = .ok b ↔ ∃ a, x = .ok a ∧ f a = .ok b := by
  cases x with
  | error e =>
    constructor
    · intro h
      cases h
    · rintro ⟨a, h, -⟩
      cases h
  | ok a =>
    constructor
    · exact fun h => ⟨a, rfl, h⟩
    · rintro ⟨_, h, hf⟩
      cases h
      exact hf

theorem bind_const_eq_ok_iff {x : Except Flaw α} {y : Except Flaw β} {b : β} :
    (x >>= fun _ => y) = .ok b ↔ (∃ a, x = .ok a) ∧ y = .ok b :=
  bind_eq_ok_iff.trans exists_and_right

theorem then_eq_ok_iff {x : Except Flaw Unit} {y : Except Flaw β} {b : β} :
    (do x; y) = .ok b ↔ x = .ok () ∧ y = .ok b :=
  bind_const_eq_ok_iff.trans (and_congr_left fun _ => ⟨fun ⟨_, h⟩ => h, fun h => ⟨(), h⟩⟩)

theorem Stop.check_eq_ok_iff {stop : Stop} : stop.check = .ok () ↔ stop = .closed := by
  cases stop <;> simp [Stop.check]

namespace Value

mutual

/-- A value that is complete, with strings and numerals like these only. -/
def IsMadeOf (text : RawText → Prop) (numeral : Numeral → Prop) : Value → Prop
  | .null => True
  | .bool _ => True
  | .number (.ok n) => numeral n
  | .text t => text t
  | .array items .closed => ItemsMadeOf text numeral items
  | .object members .closed => MembersMadeOf text numeral members
  | _ => False

def ItemsMadeOf (text : RawText → Prop) (numeral : Numeral → Prop) : List Value → Prop
  | [] => True
  | v :: vs => v.IsMadeOf text numeral ∧ ItemsMadeOf text numeral vs

def MembersMadeOf (text : RawText → Prop) (numeral : Numeral → Prop) : List (RawText × Value) → Prop
  | [] => True
  | (key, v) :: ms => text key ∧ v.IsMadeOf text numeral ∧ MembersMadeOf text numeral ms

end

/-- A value as the grammar has it, whatever its strings and numerals stand for. -/
def IsValid (v : Value) : Prop := v.IsMadeOf (fun t => t.flaw = none) fun _ => True

/-- A value whose strings say something and whose numerals have a value. -/
def IsReadable (v : Value) : Prop := v.IsMadeOf (fun t => ∃ s, t.read = .ok s) (·.number?.isSome = true)

mutual

/-- How many levels a value nests; without items and members it is none. -/
def depth : Value → Nat
  | .array items _ => itemsDepth items + 1
  | .object members _ => membersDepth members + 1
  | _ => 0

def itemsDepth : List Value → Nat
  | [] => 0
  | v :: vs => max v.depth (itemsDepth vs)

def membersDepth : List (RawText × Value) → Nat
  | [] => 0
  | (_, v) :: ms => max v.depth (membersDepth ms)

end

theorem skip_text_eq_ok_iff {t : RawText} : t.skip = .ok () ↔ t.flaw = none := by
  unfold RawText.skip
  cases t.flaw <;> simp

mutual

/-- The values that are passed over are those of the grammar. -/
theorem skip_eq_ok_iff : (v : Value) → (v.skip = .ok () ↔ v.IsValid)
  | .missing _ => ⟨nofun, nofun⟩
  | .word _ _ => ⟨nofun, nofun⟩
  | .null => ⟨fun _ => trivial, fun _ => rfl⟩
  | .bool _ => ⟨fun _ => trivial, fun _ => rfl⟩
  | .number (.ok _) => ⟨fun _ => trivial, fun _ => rfl⟩
  | .number (.error _) => ⟨nofun, nofun⟩
  | .text _ => skip_text_eq_ok_iff
  | .array items stop => by
    rw [skip, then_eq_ok_iff, skipItems_eq_ok_iff items, Stop.check_eq_ok_iff]
    cases stop <;> simp [IsValid, IsMadeOf]
  | .object members stop => by
    rw [skip, then_eq_ok_iff, skipMembers_eq_ok_iff members, Stop.check_eq_ok_iff]
    cases stop <;> simp [IsValid, IsMadeOf]
  | .oddObject _ => ⟨nofun, nofun⟩

theorem skipItems_eq_ok_iff : (vs : List Value) →
    (skipItems vs = .ok () ↔ ItemsMadeOf (fun t => t.flaw = none) (fun _ => True) vs)
  | [] => ⟨fun _ => trivial, fun _ => rfl⟩
  | v :: vs => by
    rw [skipItems, then_eq_ok_iff, skip_eq_ok_iff v, skipItems_eq_ok_iff vs]
    rfl

theorem skipMembers_eq_ok_iff : (ms : List (RawText × Value)) →
    (skipMembers ms = .ok () ↔ MembersMadeOf (fun t => t.flaw = none) (fun _ => True) ms)
  | [] => ⟨fun _ => trivial, fun _ => rfl⟩
  | (key, v) :: ms => by
    rw [skipMembers, then_eq_ok_iff, then_eq_ok_iff, skip_text_eq_ok_iff, skip_eq_ok_iff v,
      skipMembers_eq_ok_iff ms]
    rfl

end

mutual

/-- The values that can be put aside are those that can be read and do not nest too deep. -/
theorem hold_eq_ok_iff : (v : Value) → (d : Nat) → (v.hold d = .ok () ↔ v.IsReadable ∧ v.depth ≤ d)
  | .missing _, _ => ⟨nofun, fun h => h.1.elim⟩
  | .word _ _, _ => ⟨nofun, fun h => h.1.elim⟩
  | .null, d => ⟨fun _ => ⟨trivial, d.zero_le⟩, fun _ => rfl⟩
  | .bool _, d => ⟨fun _ => ⟨trivial, d.zero_le⟩, fun _ => rfl⟩
  | .number (.ok n), d => by
    show (if n.number?.isSome then Except.ok () else _) = _ ↔ n.number?.isSome = true ∧ 0 ≤ d
    split <;> simp_all
  | .number (.error _), _ => ⟨nofun, fun h => h.1.elim⟩
  | .text t, d => by
    show (t.read >>= fun _ => Except.ok ()) = _ ↔ (∃ s, t.read = .ok s) ∧ 0 ≤ d
    rw [bind_const_eq_ok_iff]
    simp
  | .array items stop, 0 => ⟨nofun, fun h => absurd h.2 (Nat.not_succ_le_zero _)⟩
  | .array items stop, d + 1 => by
    rw [hold, then_eq_ok_iff, holdItems_eq_ok_iff items, Stop.check_eq_ok_iff, depth]
    cases stop <;> simp [IsReadable, IsMadeOf]
  | .object members stop, 0 => ⟨nofun, fun h => absurd h.2 (Nat.not_succ_le_zero _)⟩
  | .object members stop, d + 1 => by
    rw [hold, then_eq_ok_iff, holdMembers_eq_ok_iff members, Stop.check_eq_ok_iff, depth]
    cases stop <;> simp [IsReadable, IsMadeOf]
  | .oddObject _, 0 => ⟨nofun, fun h => h.1.elim⟩
  | .oddObject _, _ + 1 => ⟨nofun, fun h => h.1.elim⟩

theorem holdItems_eq_ok_iff : (vs : List Value) → (d : Nat) →
    (holdItems d vs = .ok () ↔
      ItemsMadeOf (fun t => ∃ s, t.read = .ok s) (·.number?.isSome = true) vs ∧ itemsDepth vs ≤ d)
  | [], d => ⟨fun _ => ⟨trivial, d.zero_le⟩, fun _ => rfl⟩
  | v :: vs, d => by
    rw [holdItems, then_eq_ok_iff, hold_eq_ok_iff v, holdItems_eq_ok_iff vs, itemsDepth, ItemsMadeOf,
      Nat.max_le]
    exact and_and_and_comm

theorem holdMembers_eq_ok_iff : (ms : List (RawText × Value)) → (d : Nat) →
    (holdMembers d ms = .ok () ↔
      MembersMadeOf (fun t => ∃ s, t.read = .ok s) (·.number?.isSome = true) ms ∧ membersDepth ms ≤ d)
  | [], d => ⟨fun _ => ⟨trivial, d.zero_le⟩, fun _ => rfl⟩
  | (key, v) :: ms, d => by
    rw [holdMembers, bind_const_eq_ok_iff, then_eq_ok_iff, hold_eq_ok_iff v, holdMembers_eq_ok_iff ms,
      membersDepth, MembersMadeOf, Nat.max_le, and_and_and_comm, ← and_assoc]
    rfl

end

end Value

end PerfTimeline.Json
