import PerfTimeline.Proofs.Json.Members
import PerfTimeline.Proofs.Json.Simple

/-!
# Members that override defaults

An object may mention some of the members that its reader knows. `Mentions` says which value a member is
given, if any, in terms of how values are spelled, and `Overrides` what a reader makes of it: whatever is
mentioned replaces its default, unknown members make no difference, and nothing may be mentioned twice.
-/

namespace PerfTimeline.Json

variable {α β γ δ : Type}

/-! ### Spelling -/

namespace Value

/-- A whole number of 64 bits, in digits only. -/
def SpellsSize (v : Value) (n : Nat) : Prop :=
  ∃ digits, v = .number (.ok { whole := digits }) ∧ Digit.toNat digits = n ∧ n ≤ Numeral.maxSignificand

/-- A numeral whose value in floating point is `x`. -/
def SpellsReal (v : Value) (x : Float) : Prop :=
  ∃ numeral n, v = .number (.ok numeral) ∧ numeral.number? = some n ∧ n.toFloat = x

def SpellsBool (v : Value) (b : Bool) : Prop := v = .bool b

/-- A string, or an object that has it as its only key, with `null`. -/
def SpellsName (v : Value) (name : String) : Prop :=
  ∃ t : RawText, t.read = .ok name ∧ (v = .text t ∨ v = .object [(t, .null)] .closed)

def SpellsList (spells : Value → α → Prop) (v : Value) (as : List α) : Prop :=
  ∃ items, v = .array items .closed ∧ List.Forall₂ spells items as

/-- `null`, or what spells a value. -/
def Optionally (spells : Value → α → Prop) (v : Value) (o : Option α) : Prop :=
  v = .null ∧ o = none ∨ ∃ a, o = some a ∧ spells v a

theorem spellsSize_ofNat {n : Nat} (h : n < UInt64.size) : (ofNat n).SpellsSize n :=
  ⟨Digit.ofNat n, rfl, Digit.toNat_ofNat n, Nat.le_of_lt_succ h⟩

theorem spellsReal_ofFloat {x : Float} (hx : isFinite x = true) (hback : Numeral.ReadsBack x) :
    (ofFloat x).SpellsReal x := by
  obtain ⟨n, hn, hnx⟩ := Option.map_eq_some_iff.mp hback
  rw [ofFloat, if_pos hx]
  exact ⟨_, n, rfl, hn, hnx⟩

theorem spellsName_ofString (name : String) : (ofString name).SpellsName name :=
  ⟨.ofString name, RawText.read_ofString name, .inl rfl⟩

theorem spellsList_ofList {spells : Value → α → Prop} {f : α → Value} (h : ∀ a, spells (f a) a)
    (as : List α) : SpellsList spells (ofList (as.map f)) as := by
  refine ⟨as.map f, rfl, ?_⟩
  induction as with
  | nil => exact .nil
  | cons a as ih => exact .cons (h a) ih

theorem optionally_ofOption {spells : Value → α → Prop} {f : α → Value} {o : Option α}
    (h : ∀ a, o = some a → spells (f a) a) : Optionally spells (ofOption f o) o := by
  cases o with
  | none => exact .inl ⟨rfl, rfl⟩
  | some a => exact .inr ⟨a, rfl, h a rfl⟩

end Value

/-- Whatever is spelled so is read, and nothing that begins like `null`. -/
structure Reads (read : Value → Read α) (spells : Value → α → Prop) : Prop where
  spelled (v : Value) (a : α) (h : spells v a) : read v = .ok a
  null : ∃ f, read .null = .error f
  word (w : Flaw) : ∃ f, read (.word 'n' w) = .error f

namespace Reads

open Value

theorem size : Reads Value.size SpellsSize where
  spelled := by
    rintro v n ⟨digits, rfl, rfl, hn⟩
    have hnumber : Numeral.number? { whole := digits } = some (.nat (Digit.toNat digits)) := by
      simp [Numeral.number?, hn]
    have hlimit : Digit.toNat digits ≤ 0xffffffffffffffff := hn
    simp [Value.size, integer, numberOf, hnumber, hlimit]
  null := ⟨_, rfl⟩
  word _ := ⟨_, rfl⟩

theorem float : Reads Value.float SpellsReal where
  spelled := by
    rintro v x ⟨numeral, n, rfl, hn, rfl⟩
    simp [Value.float, numberOf, hn, Except.map]
  null := ⟨_, rfl⟩
  word _ := ⟨_, rfl⟩

theorem boolean : Reads Value.boolean SpellsBool where
  spelled := by
    rintro v b rfl
    rfl
  null := ⟨_, rfl⟩
  word _ := ⟨_, rfl⟩

theorem oneOf {ofName? : String → Option α} {name : α → String} (h : ∀ a, ofName? (name a) = some a)
    (allowed : List String) :
    Reads (Value.oneOf ofName? allowed) fun v a => SpellsName v (name a) where
  spelled := by
    rintro v a ⟨t, ht, rfl | rfl⟩
    · show (Read.ofFlaw t.read >>= _) = _
      rw [ht]
      show Value.oneOf.choose ofName? allowed (name a) = _
      rw [Value.oneOf.choose, h]
    · show (Read.ofFlaw t.read >>= _) = _
      rw [ht]
      show (Value.oneOf.choose ofName? allowed (name a) >>= _) = _
      rw [Value.oneOf.choose, h]
      rfl
  null := ⟨_, rfl⟩
  word _ := ⟨_, rfl⟩

theorem listOf {read : Value → Read α} {spells : Value → α → Prop} (h : Reads read spells) :
    Reads (Value.listOf read) (SpellsList spells) where
  spelled := by
    rintro v as ⟨items, rfl, hitems⟩
    have hall : items.mapM read = .ok as := by
      induction hitems with
      | nil => rfl
      | cons hv _ ih => rw [List.mapM_cons, h.spelled _ _ hv, ih]; rfl
    rw [Value.listOf, hall]
    rfl
  null := ⟨_, rfl⟩
  word _ := ⟨_, rfl⟩

theorem optional {read : Value → Read α} {spells : Value → α → Prop} (h : Reads read spells) {v : Value}
    {o : Option α} (hv : Optionally spells v o) : Value.optional read v = .ok o := by
  obtain ⟨rfl, rfl⟩ | ⟨a, rfl, hv⟩ := hv
  · rfl
  · have hread := h.spelled v a hv
    have hnull : v ≠ .null := by
      rintro rfl
      obtain ⟨f, hf⟩ := h.null
      cases hf.symm.trans hread
    have hword (w : Flaw) : v ≠ .word 'n' w := by
      rintro rfl
      obtain ⟨f, hf⟩ := h.word w
      cases hf.symm.trans hread
    rw [Value.optional.eq_3 _ _ hnull hword, hread]
    rfl

end Reads

/-! ### Mentions -/

/-- What members say under a name: either nothing, or it stands there once and its value spells `a`. -/
def Mentions (spells : Value → α → Prop) (name : String) (members : Named) : Option α → Prop
  | none => name ∉ members.map Prod.fst
  | some a => (members.map Prod.fst).count name = 1 ∧ ∃ v, (name, v) ∈ members ∧ spells v a

namespace Mentions

variable {spells : Value → α → Prop} {read : Value → Read α} {name : String} {members : Named}
  {given : Option α}

theorem of_mem (hnodup : (members.map Prod.fst).Nodup) {v : Value} {a : α} (hmem : (name, v) ∈ members)
    (hv : spells v a) : Mentions spells name members (some a) := by
  have hname : name ∈ members.map Prod.fst := List.mem_map_of_mem hmem
  refine ⟨?_, v, hmem, hv⟩
  rw [hnodup.count, if_pos hname]

theorem once (h : Mentions spells name members given) : (members.map Prod.fst).count name ≤ 1 := by
  cases given with
  | none => exact Nat.le_trans (Nat.le_of_eq (List.count_eq_zero.mpr h)) (Nat.zero_le 1)
  | some a => exact Nat.le_of_eq h.1

theorem said (h : Mentions spells name members given) (hread : ∀ v a, spells v a → read v = .ok a) :
    said read name members = given := by
  cases given with
  | none => exact said_of_not_mem h
  | some a =>
    obtain ⟨v, hmem, hv⟩ := h.2
    exact said_of_lookup (lookup_of_mem_of_once h.once hmem) (hread v a hv)

theorem exists_read (h : Mentions spells name members given) (hread : ∀ v a, spells v a → read v = .ok a)
    {v : Value} (hv : members.lookup name = some v) : ∃ a, read v = .ok a := by
  cases given with
  | none => cases (lookup_of_not_mem h).symm.trans hv
  | some a =>
    obtain ⟨w, hmem, hw⟩ := h.2
    cases (lookup_of_mem_of_once h.once hmem).symm.trans hv
    exact ⟨a, hread v a hw⟩

end Mentions

/-! ### Members given twice -/

/-- A name stands among the keys more than once. -/
def Repeats (name : String) (raw : List (RawText × Value)) : Prop :=
  2 ≤ (raw.filterMap (·.1.read.toOption)).count name

theorem Spells.names {raw : List (RawText × Value)} {members : Named} (h : Spells raw members) :
    raw.filterMap (·.1.read.toOption) = members.map Prod.fst := by
  induction h with
  | nil => rfl
  | cons hm _ ih => rw [List.filterMap_cons, hm.1, ih]; rfl

namespace MemberReader

variable {readers : List (MemberReader δ)} {other : String → Value → δ → Read δ} {draft : δ}

/-- What is given stays given, and what is read is given then. -/
def Lasting (readers : List (MemberReader δ)) : Prop :=
  ∀ r ∈ readers, ∀ r' ∈ readers, ∀ v d d', r'.read v d = .ok d' →
    r'.name = r.name ∨ r.isGiven d = true → r.isGiven d' = true

theorem spells_of_readMembers {raw : List (RawText × Value)} {result : δ}
    (h : readMembers readers other raw draft = .ok result) :
    ∃ members, Spells raw members ∧ readAll readers other members draft = .ok result := by
  induction raw generalizing draft with
  | nil => exact ⟨[], .nil, h⟩
  | cons m raw ih =>
    obtain ⟨key, v⟩ := m
    rw [readMembers, bind_eq_ok_iff] at h
    obtain ⟨name, hname, h⟩ := h
    obtain ⟨next, hnext, h⟩ := bind_eq_ok_iff.mp h
    obtain ⟨members, hraw, hall⟩ := ih h
    have hkey : key.read = .ok name := by
      cases hkey : key.read with
      | error f =>
        rw [hkey] at hname
        cases hname
      | ok s =>
        rw [hkey] at hname
        exact congrArg _ (Except.ok.inj hname)
    refine ⟨(name, v) :: members, .cons ⟨hkey, rfl⟩ hraw, ?_⟩
    show (readNamed readers other name v draft >>= _) = _
    rw [hnext]
    exact hall

namespace Lasting

variable {reader : MemberReader δ} {name key : String} {v : Value} {next : δ}

theorem isGiven_readNamed (h : Lasting readers) (hreader : reader ∈ readers)
    (hnext : readNamed readers ignore key v draft = .ok next) (hgiven : reader.isGiven draft = true) :
    reader.isGiven next = true := by
  unfold readNamed at hnext
  split at hnext
  · exact eq_of_ignore hnext ▸ hgiven
  · next r' hfind =>
    split at hnext
    · cases hnext
    · exact h reader hreader r' (List.mem_of_find?_eq_some hfind) v draft next hnext (.inr hgiven)

theorem isGiven_readNamed_self (h : Lasting readers) (hfind : readers.find? (·.name == name) = some reader)
    (hnext : readNamed readers ignore name v draft = .ok next) :
    reader.isGiven draft = false ∧ reader.isGiven next = true := by
  have hreader := List.mem_of_find?_eq_some hfind
  simp only [readNamed, hfind] at hnext
  split at hnext
  · cases hnext
  · next hnot =>
    exact ⟨Bool.eq_false_iff.mpr hnot, h reader hreader reader hreader v draft next hnext (.inl rfl)⟩

/-- Nothing is read of members that repeat each other, or what was given before. -/
theorem count_le (h : Lasting readers) (hfind : readers.find? (·.name == name) = some reader)
    {members : Named} {result : δ} (hread : readAll readers ignore members draft = .ok result) :
    (members.map Prod.fst).count name + (if reader.isGiven draft then 1 else 0) ≤ 1 := by
  have hreader := List.mem_of_find?_eq_some hfind
  induction members generalizing draft with
  | nil => split <;> simp
  | cons m ms ih =>
    obtain ⟨next, hnext, hrest⟩ := bind_eq_ok_iff.mp hread
    change readNamed readers ignore m.1 m.2 draft = .ok next at hnext
    have hrest := ih hrest
    rw [List.map_cons, List.count_cons]
    by_cases hkey : m.1 = name
    · rw [hkey] at hnext ⊢
      obtain ⟨hnot, hgiven⟩ := h.isGiven_readNamed_self hfind hnext
      simp only [hgiven, hnot, if_true, beq_self_eq_true, Bool.false_eq_true, if_false] at hrest ⊢
      omega
    · have hne : (m.1 == name) = false := by simp [hkey]
      rw [hne]
      cases hgiven : reader.isGiven draft with
      | true =>
        rw [h.isGiven_readNamed hreader hnext hgiven] at hrest
        exact hrest
      | false =>
        simp only [Bool.false_eq_true, if_false, Nat.add_zero]
        omega

/-- A known member that is given twice cannot be read, whatever else the object holds. -/
theorem not_ok_of_repeats (h : Lasting readers)
    (hname : name ∈ readers.map (·.name)) {raw : List (RawText × Value)} (hraw : Repeats name raw)
    (result : δ) : readMembers readers ignore raw draft ≠ .ok result := by
  intro hread
  obtain ⟨members, hspells, hall⟩ := spells_of_readMembers hread
  obtain ⟨r, hr, hrname⟩ := List.mem_map.mp hname
  have hsome : (readers.find? (·.name == name)).isSome = true :=
    List.find?_isSome.mpr ⟨r, hr, by simpa using hrname⟩
  obtain ⟨reader, hfind⟩ := Option.isSome_iff_exists.mp hsome
  have hle := h.count_le hfind hall
  rw [Repeats, hspells.names] at hraw
  omega

end Lasting

end MemberReader

/-! ### Overriding -/

/-- A reader whose members override defaults. -/
structure Overrides (read : Value → Read γ) (names : List String) (mentions : Named → δ → Prop)
    (override : δ → γ) : Prop where
  /-- The members may come in any order, and all others with valid values. -/
  decodes (text : String) (raw : List (RawText × Value)) (members : Named) (given : δ)
    (htext : Document.ofString text = ⟨.object raw .closed, false⟩) (hraw : Spells raw members)
    (hgiven : mentions members given) (hother : ∀ m ∈ members, m.1 ∉ names → m.2.IsValid) :
    (Document.ofString text).read read = .ok (override given)
  /-- A known name may stand there only once, in any object. -/
  refuses (text : String) (raw : List (RawText × Value)) (stop : Stop) (trailing : Bool) (name : String)
    (htext : Document.ofString text = ⟨.object raw stop, trailing⟩) (hname : name ∈ names)
    (hrepeats : Repeats name raw) : ∃ fault, (Document.ofString text).read read = .error fault

/-- The text of known members only is read as what they mention. -/
theorem Overrides.ofMembers {read : Value → Read γ} {names : List String} {mentions : Named → δ → Prop}
    {override : δ → γ} (h : Overrides read names mentions override) {members : Named} {given : δ}
    (hproper : ∀ m ∈ members, m.2.IsProper) (hnames : ∀ m ∈ members, m.1 ∈ names)
    (hgiven : mentions members given) :
    (Document.ofString (Value.ofMembers members).render).read read = .ok (override given) :=
  h.decodes _ _ _ _ (Document.ofString_render (Value.isProper_ofMembers hproper))
    (spells_ofString members) hgiven fun m hm hne => absurd (hnames m hm) hne

namespace MemberReader

/-- Members make up the draft `given`. -/
structure Fills (readers : List (MemberReader δ)) (draftOf : Named → δ) (members : Named) (given : δ) :
    Prop where
  once : Once readers members
  known : ∀ reader ∈ readers, ∀ v, members.lookup reader.name = some v → ∀ d, ∃ d', reader.read v d = .ok d'
  draft : draftOf members = given

variable {readers : List (MemberReader δ)} {draftOf : Named → δ}

theorem Drafts.overrides (h : Drafts readers ignore draftOf) (hlasting : Lasting readers)
    {mentions : Named → δ → Prop}
    (hmentions : ∀ members given, mentions members given → Fills readers draftOf members given)
    (title : String) (override : δ → γ) :
    Overrides (fun v => do return override (← readDraft title readers (draftOf []) v))
      (readers.map (·.name)) mentions override where
  decodes text raw members given htext hraw hgiven hother := by
    obtain ⟨honce, hknown, hdraft⟩ := hmentions members given hgiven
    have hforeign : ∀ m ∈ members, m.1 ∉ readers.map (·.name) → ∀ d : δ, ∃ d', ignore m.1 m.2 d = .ok d' := by
      intro m hm hname d
      have hskip := (Value.skip_eq_ok_iff m.2).mpr (hother m hm hname)
      exact ⟨d, by rw [ignore, hskip]; rfl⟩
    have hread := h.readAll_eq_of_once honce (takes_of_once honce hknown hforeign)
    rw [htext, Document.read, readDraft, readMembers_of_spells hraw, hread, hdraft]
    rfl
  refuses text raw stop trailing name htext hname hrepeats := by
    cases hread : readMembers readers ignore raw (draftOf []) with
    | ok result => exact absurd hread (hlasting.not_ok_of_repeats hname hrepeats result)
    | error fault =>
      refine ⟨fault, ?_⟩
      rw [htext, Document.read, readDraft, hread]
      rfl

end MemberReader

end PerfTimeline.Json
