import Mathlib.Data.List.Forall2
import PerfTimeline.Json.Members
import PerfTimeline.Proofs.Json.Passing
import PerfTimeline.Proofs.Json.Written

/-!
# What members leave behind

Members whose names differ are read independently of each other: what a draft holds afterwards depends only
on what is said under each name (`said`), not on the order of the members. `Drafts` states this for one list
of readers, member by member; `readAll_eq_of_once` is the same for all members of an object, where only the
names that are known have to differ.
-/

namespace PerfTimeline.Json

variable {α β δ : Type}

/-- Members under the names that their keys say. -/
abbrev Named := List (String × Value)

/-- The keys of written members say the names of these. -/
def Spells (raw : List (RawText × Value)) (members : Named) : Prop :=
  List.Forall₂ (fun r m => r.1.read = .ok m.1 ∧ r.2 = m.2) raw members

theorem spells_ofString (members : Named) :
    Spells (members.map fun (key, v) => (RawText.ofString key, v)) members := by
  induction members with
  | nil => exact .nil
  | cons m ms ih => exact .cons ⟨RawText.read_ofString m.1, rfl⟩ ih

/-- What members say under a name, if it is among them and its value can be read. -/
def said (read : Value → Read α) (name : String) (members : Named) : Option α :=
  (members.lookup name).bind fun v => (read v).toOption

section Said

variable {read : Value → Read α} {name key : String} {members : Named} {v : Value} {a : α}

theorem lookup_of_not_mem (h : name ∉ members.map Prod.fst) : members.lookup name = none := by
  rw [List.lookup_eq_none_iff]
  intro m hm
  have hne : name ≠ m.1 := fun he => h (he ▸ List.mem_map_of_mem hm)
  simp [hne]

theorem said_of_not_mem (h : name ∉ members.map Prod.fst) : said read name members = none := by
  rw [said, lookup_of_not_mem h]
  rfl

theorem said_of_lookup (h : members.lookup name = some v) (ha : read v = .ok a) :
    said read name members = some a := by
  rw [said, h]
  simp [ha, Except.toOption]

theorem said_concat_self (h : name ∉ members.map Prod.fst) (ha : read v = .ok a) :
    said read name (members ++ [(name, v)]) = some a := by
  apply said_of_lookup _ ha
  rw [List.lookup_append, lookup_of_not_mem h]
  simp

theorem said_concat_of_ne (h : name ≠ key) :
    said read name (members ++ [(key, v)]) = said read name members := by
  have hne : (name == key) = false := by simp [h]
  simp [said, List.lookup_append, List.lookup_cons, hne]

/-- A name that stands there only once is looked up whatever stands around it. -/
theorem lookup_of_mem_of_once (honce : (members.map Prod.fst).count name ≤ 1) (h : (name, v) ∈ members) :
    members.lookup name = some v := by
  induction members with
  | nil => cases h
  | cons m ms ih =>
    rw [List.map_cons, List.count_cons] at honce
    obtain rfl | hmem := List.mem_cons.mp h
    · simp
    · have hpos : 0 < (ms.map Prod.fst).count name := List.count_pos_iff.mpr (List.mem_map_of_mem hmem)
      have hne : (m.1 == name) = false := by
        cases hm : m.1 == name with
        | false => rfl
        | true =>
          rw [hm, if_pos rfl] at honce
          omega
      rw [List.lookup_cons, beq_eq_false_iff_ne.mpr (beq_eq_false_iff_ne.mp hne).symm]
      rw [hne] at honce
      exact ih honce hmem

theorem lookup_of_mem (hnodup : (members.map Prod.fst).Nodup) (h : (name, v) ∈ members) :
    members.lookup name = some v :=
  lookup_of_mem_of_once (List.nodup_iff_count.mp hnodup name) h

theorem lookup_filter (p : String → Bool) (h : p name = true) :
    (members.filter fun m => p m.1).lookup name = members.lookup name := by
  induction members with
  | nil => rfl
  | cons m ms ih =>
    cases hm : p m.1 with
    | true =>
      have hkeep : (m :: ms).filter (fun m => p m.1) = m :: ms.filter fun m => p m.1 := by simp [hm]
      rw [hkeep, List.lookup_cons, List.lookup_cons, ih]
    | false =>
      have hdrop : (m :: ms).filter (fun m => p m.1) = ms.filter fun m => p m.1 := by simp [hm]
      have hne : name ≠ m.1 := by
        intro he
        rw [he, hm] at h
        cases h
      rw [hdrop, ih, List.lookup_cons, beq_eq_false_iff_ne.mpr hne]

theorem nodup_filter (p : String × Value → Bool) (h : (members.map Prod.fst).Nodup) :
    ((members.filter p).map Prod.fst).Nodup :=
  (List.filter_sublist.map Prod.fst).nodup h

/-- Under a name the members have the written form of `o`; for nothing that is `null` or no member. -/
def Gives (members : Named) (name : String) (f : β → Value) (o : Option β) : Prop :=
  members.lookup name = some (Value.ofOption f o) ∨ o = none ∧ members.lookup name = none

namespace Gives

variable {f : β → Value} {g : β → Option α} {o : Option β}

theorem of_lookup_map (h : members.lookup name = o.map f) : Gives members name f o := by
  cases o with
  | none => exact .inr ⟨rfl, h⟩
  | some b => exact .inl h

theorem said_join (h : Gives members name f o)
    (hread : ∀ b, o = some b → Value.optional read (f b) = .ok (g b)) :
    (said (Value.optional read) name members).join = o.bind g := by
  obtain h | ⟨rfl, h⟩ := h
  · cases o with
    | none =>
      have hnull : Value.optional read (Value.ofOption f none) = .ok none := rfl
      rw [said_of_lookup h hnull]
      rfl
    | some b =>
      rw [said_of_lookup h (hread b rfl)]
      rfl
  · rw [said, h]
    rfl

theorem exists_read (h : Gives members name f o)
    (hread : ∀ b, o = some b → Value.optional read (f b) = .ok (g b))
    (hv : members.lookup name = some v) : ∃ a, Value.optional read v = .ok a := by
  obtain h | ⟨-, h⟩ := h
  · cases h.symm.trans hv
    cases o with
    | none => exact ⟨none, rfl⟩
    | some b => exact ⟨g b, hread b rfl⟩
  · cases h.symm.trans hv

end Gives

end Said

/-! ### Members in turn -/

namespace MemberReader

variable {readers : List (MemberReader δ)} {other : String → Value → δ → Read δ}

/-- Take members in turn by their names. -/
def readAll (readers : List (MemberReader δ)) (other : String → Value → δ → Read δ) (members : Named)
    (draft : δ) : Read δ :=
  members.foldlM (fun d (name, v) => readNamed readers other name v d) draft

theorem readMembers_of_spells {raw : List (RawText × Value)} {members : Named}
    (h : Spells raw members) (draft : δ) :
    readMembers readers other raw draft = readAll readers other members draft := by
  induction h generalizing draft with
  | nil => rfl
  | @cons r m raw members hm _ ih =>
    rw [readMembers, hm.1, hm.2, readAll, List.foldlM_cons]
    show (readNamed readers other m.1 m.2 draft >>= _) = _
    congr 1
    funext d
    exact ih d

theorem readMembers_ofString (members : Named) (draft : δ) :
    readMembers readers other (members.map fun (key, v) => (RawText.ofString key, v)) draft =
      readAll readers other members draft :=
  readMembers_of_spells (spells_ofString members) draft

/-- The readers take `v` as the member `name`. -/
def Takes (readers : List (MemberReader δ)) (other : String → Value → δ → Read δ) (name : String)
    (v : Value) : Prop :=
  match readers.find? (·.name == name) with
  | none => ∀ d, ∃ d', other name v d = .ok d'
  | some reader => ∀ d, ∃ d', reader.read v d = .ok d'

theorem takes_of_slot {name : String} {required : Bool} {read : Value → Read α} {get : δ → Option α}
    {set : α → δ → δ} {v : Value} {a : α}
    (hfind : readers.find? (·.name == name) = some
      ⟨name, required, fun d => (get d).isSome, fun v d => do return set (← read v) d⟩)
    (ha : read v = .ok a) : Takes readers other name v := by
  unfold Takes
  rw [hfind]
  intro d
  refine ⟨set a d, ?_⟩
  simp only [ha]
  rfl

theorem exists_read_of_slot {name : String} {required : Bool} {read : Value → Read α} {get : δ → Option α}
    {set : α → δ → δ} {v : Value} {a : α} (ha : read v = .ok a) (d : δ) :
    let reader : MemberReader δ :=
      ⟨name, required, fun d => (get d).isSome, fun v d => do return set (← read v) d⟩
    ∃ d', reader.read v d = .ok d' := by
  refine ⟨set a d, ?_⟩
  simp only [ha]
  rfl

/-- Each known name stands there once at most. -/
def Once (readers : List (MemberReader δ)) (members : Named) : Prop :=
  ∀ reader ∈ readers, (members.map Prod.fst).count reader.name ≤ 1

theorem once_of_nodup {members : Named} (h : (members.map Prod.fst).Nodup) : Once readers members :=
  fun _ _ => List.nodup_iff_count.mp h _

/-- The members of an object are taken if each known one among them can be read, and others passed over. -/
theorem takes_of_once {members : Named} (honce : Once readers members)
    (hknown : ∀ reader ∈ readers, ∀ v, members.lookup reader.name = some v →
      ∀ d, ∃ d', reader.read v d = .ok d')
    (hforeign : ∀ m ∈ members, m.1 ∉ readers.map (·.name) → ∀ d, ∃ d', other m.1 m.2 d = .ok d') :
    ∀ m ∈ members, Takes readers other m.1 m.2 := by
  intro m hm
  unfold Takes
  cases hfind : readers.find? (·.name == m.1) with
  | none =>
    apply hforeign m hm
    intro hmem
    obtain ⟨reader, hreader, hname⟩ := List.mem_map.mp hmem
    have hne := List.find?_eq_none.mp hfind reader hreader
    simp [hname] at hne
  | some reader =>
    have hname : reader.name = m.1 := by simpa using List.find?_some hfind
    have hreader := List.mem_of_find?_eq_some hfind
    exact hknown reader hreader m.2 (lookup_of_mem_of_once (honce reader hreader) (by rwa [hname]))

theorem takes_of_known {members : Named} (hnodup : (members.map Prod.fst).Nodup)
    (hknown : ∀ reader ∈ readers, ∀ v, members.lookup reader.name = some v →
      ∀ d, ∃ d', reader.read v d = .ok d')
    (hforeign : ∀ m ∈ members, m.1 ∉ readers.map (·.name) → ∀ d, ∃ d', other m.1 m.2 d = .ok d') :
    ∀ m ∈ members, Takes readers other m.1 m.2 := takes_of_once (once_of_nodup hnodup) hknown hforeign

theorem readNamed_error_of_slot {name : String} {required : Bool} {read : Value → Read α}
    {get : δ → Option α} {set : α → δ → δ} {v : Value} {d : δ} {f : Fault}
    (hfind : readers.find? (·.name == name) = some
      ⟨name, required, fun d => (get d).isSome, fun v d => do return set (← read v) d⟩)
    (hget : get d = none) (hv : read v = .error f) :
    readNamed readers other name v d = .error f := by
  simp only [readNamed, hfind, hget, hv]
  rfl

theorem eq_of_ignore {name : String} {v : Value} {d d' : δ} (h : ignore name v d = .ok d') : d' = d := by
  obtain ⟨_, _, hsame⟩ := bind_eq_ok_iff.mp h
  exact (Except.ok.inj hsame).symm

/-- `draftOf` tells which draft the members read so far have left behind. -/
structure Drafts (readers : List (MemberReader δ)) (other : String → Value → δ → Read δ)
    (draftOf : Named → δ) : Prop where
  /-- A known name has been given if it was among the members, and its value changes its own slot only. -/
  known : ∀ reader ∈ readers, ∀ done v, reader.name ∉ done.map Prod.fst →
    reader.isGiven (draftOf done) = false ∧
      ∀ d, reader.read v (draftOf done) = .ok d → d = draftOf (done ++ [(reader.name, v)])
  foreign : ∀ name ∉ readers.map (·.name), ∀ done v d,
    other name v (draftOf done) = .ok d → d = draftOf (done ++ [(name, v)])

theorem known_of_slot {name : String} {required : Bool} {read : Value → Read α} {get : δ → Option α}
    {set : α → δ → δ} {draftOf : Named → δ} {done : Named} {v : Value}
    (hnew : name ∉ done.map Prod.fst) (hget : get (draftOf done) = said read name done)
    (hset : ∀ a, read v = .ok a → set a (draftOf done) = draftOf (done ++ [(name, v)])) :
    let reader : MemberReader δ :=
      ⟨name, required, fun d => (get d).isSome, fun v d => do return set (← read v) d⟩
    reader.isGiven (draftOf done) = false ∧
      ∀ d, reader.read v (draftOf done) = .ok d → d = draftOf (done ++ [(reader.name, v)]) := by
  constructor
  · show (get (draftOf done)).isSome = false
    rw [hget, said_of_not_mem hnew]
    rfl
  · intro d hd
    cases ha : read v with
    | error f =>
      simp only [ha] at hd
      cases hd
    | ok a =>
      simp only [ha] at hd
      cases hd
      exact hset a ha

namespace Drafts

variable {draftOf : Named → δ}

theorem readNamed_eq (h : Drafts readers other draftOf) {done : Named} {name : String} {v : Value}
    (hnew : name ∈ readers.map (·.name) → name ∉ done.map Prod.fst) (hv : Takes readers other name v) :
    readNamed readers other name v (draftOf done) = .ok (draftOf (done ++ [(name, v)])) := by
  unfold Takes at hv
  unfold readNamed
  cases hfind : readers.find? (·.name == name) with
  | none =>
    rw [hfind] at hv
    obtain ⟨d, hd⟩ := hv (draftOf done)
    have hforeign : name ∉ readers.map (·.name) := by
      intro hmem
      obtain ⟨r, hr, hname⟩ := List.mem_map.mp hmem
      have := List.find?_eq_none.mp hfind r hr
      simp [hname] at this
    exact hd.trans (congrArg _ (h.foreign name hforeign done v d hd))
  | some reader =>
    rw [hfind] at hv
    have hname : reader.name = name := by simpa using List.find?_some hfind
    have hreader := List.mem_of_find?_eq_some hfind
    have hfresh := hnew (hname ▸ List.mem_map_of_mem hreader)
    have hknown := h.known reader hreader done v (by rwa [hname])
    obtain ⟨d, hd⟩ := hv (draftOf done)
    rw [hname] at hknown
    simp only [hknown.1]
    exact hd.trans (congrArg _ (hknown.2 d hd))

theorem readAll_eq_of_once (h : Drafts readers other draftOf) {members : Named}
    (honce : Once readers members) (htakes : ∀ m ∈ members, Takes readers other m.1 m.2) :
    readAll readers other members (draftOf []) = .ok (draftOf members) := by
  -- the induction runs over the members still to come, behind any that were read before
  have key : ∀ (members done : Named), Once readers (done ++ members) →
      (∀ m ∈ members, Takes readers other m.1 m.2) →
      readAll readers other members (draftOf done) = .ok (draftOf (done ++ members)) := by
    intro members
    induction members with
    | nil =>
      intro done _ _
      rw [List.append_nil]
      rfl
    | cons m ms ih =>
      intro done honce htakes
      have hnew : m.1 ∈ readers.map (·.name) → m.1 ∉ done.map Prod.fst := by
        intro hknown hmem
        obtain ⟨reader, hreader, hname⟩ := List.mem_map.mp hknown
        have hcount := honce reader hreader
        have hpos := List.count_pos_iff.mpr hmem
        rw [List.map_append, List.map_cons, List.count_append, hname, List.count_cons_self] at hcount
        omega
      have hm := h.readNamed_eq hnew (htakes m List.mem_cons_self)
      have hsplit : done ++ m :: ms = done ++ [m] ++ ms := by simp
      rw [hsplit] at honce ⊢
      have hms := ih (done ++ [m]) honce fun w hw => htakes w (List.mem_cons_of_mem m hw)
      show (readNamed readers other m.1 m.2 (draftOf done) >>= _) = _
      rw [hm]
      exact hms
  exact key members [] honce htakes

theorem readAll_eq (h : Drafts readers other draftOf) {members : Named}
    (hnodup : (members.map Prod.fst).Nodup)
    (htakes : ∀ m ∈ members, Takes readers other m.1 m.2) :
    readAll readers other members (draftOf []) = .ok (draftOf members) :=
  h.readAll_eq_of_once (once_of_nodup hnodup) htakes

theorem readDraft_eq (h : Drafts readers ignore draftOf) {members : Named}
    (hnodup : (members.map Prod.fst).Nodup)
    (htakes : ∀ m ∈ members, Takes readers ignore m.1 m.2) (title : String) :
    readDraft title readers (draftOf []) (.ofMembers members) = .ok (draftOf members) := by
  rw [Value.ofMembers, readDraft, readMembers_ofString, h.readAll_eq hnodup htakes]
  rfl

/-- The first member that cannot be read decides the outcome. -/
theorem readDraft_error (h : Drafts readers ignore draftOf) {done : Named} {name : String} {v : Value}
    {f : Fault} (hnodup : (done.map Prod.fst).Nodup)
    (htakes : ∀ m ∈ done, Takes readers ignore m.1 m.2)
    (herror : readNamed readers ignore name v (draftOf done) = .error f) (title : String)
    (members : Named) :
    readDraft title readers (draftOf []) (.ofMembers (done ++ (name, v) :: members)) = .error f := by
  have hdone := h.readAll_eq hnodup htakes
  have hall : readAll readers ignore (done ++ (name, v) :: members) (draftOf []) = .error f := by
    unfold readAll at hdone ⊢
    rw [List.foldlM_append, hdone]
    show (readNamed readers ignore name v (draftOf done) >>= _) = _
    rw [herror]
    rfl
  rw [Value.ofMembers, readDraft, readMembers_ofString, hall]
  rfl

end Drafts

end MemberReader

/-! ### Whole texts -/

/-- Reading the text of a value is reading the value. -/
theorem Document.read_render {v : Value} (h : v.IsProper) (read : Value → Read α) :
    (Document.ofString v.render).read read = read v := by
  rw [Document.ofString_render h, Document.read]
  cases read v <;> rfl

end PerfTimeline.Json
