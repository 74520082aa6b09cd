import PerfTimeline.Json.Reader
import PerfTimeline.Proofs.Json.Members
import PerfTimeline.Proofs.Json.Simple
import PerfTimeline.Wire.Record

/-!
# Flat records, written and read

A record is read from any members that describe it (`Record.Describes`), whatever their order; its own
members do. What cannot be written is a number that is not finite: it becomes `null`, which counts as absent
where a number is optional, and as a mistake where it is not.
-/

namespace PerfTimeline

open PerfTimeline.Json

@[simp] theorem EntryType.ofJson_toJson (t : EntryType) : EntryType.ofJson t.toJson = .ok t := by
  simp [ofJson, toJson, Value.ofString, Value.oneOf, RawText.read_ofString, Read.ofFlaw,
    Value.oneOf.choose, ofName?_name, bind, Except.bind]

namespace Record

/-! ### Reading any members -/

@[simp] theorem name_requiredReader {α : Type} (name : String) (read : Value → Read α)
    (get : Draft → Option α) (set : α → Draft → Draft) :
    (requiredReader name read get set).name = name := rfl

@[simp] theorem name_optionalReader {α : Type} (name : String) (read : Value → Read α)
    (get : Draft → Option (Option α)) (set : Option α → Draft → Draft) :
    (optionalReader name read get set).name = name := rfl

/-- The draft that members leave behind. -/
def draftOf (members : Named) : Draft where
  name := said Value.string "name" members
  entryType := said EntryType.ofJson "entryType" members
  startTime := said Value.float "startTime" members
  duration := said Value.float "duration" members
  processingStart := said (Value.optional Value.float) "processingStart" members
  processingEnd := said (Value.optional Value.float) "processingEnd" members
  interactionId := said (Value.optional Value.word32) "interactionId" members
  fetchStart := said (Value.optional Value.float) "fetchStart" members
  requestStart := said (Value.optional Value.float) "requestStart" members
  connectStart := said (Value.optional Value.float) "connectStart" members
  connectEnd := said (Value.optional Value.float) "connectEnd" members
  responseStart := said (Value.optional Value.float) "responseStart" members
  responseEnd := said (Value.optional Value.float) "responseEnd" members
  responseStatus := said (Value.optional Value.word16) "responseStatus" members

theorem drafts : MemberReader.Drafts readers MemberReader.ignore draftOf where
  known := by
    intro reader hreader done v hnew
    simp only [readers, List.mem_cons, List.not_mem_nil, or_false] at hreader
    rcases hreader with rfl | rfl | rfl | rfl | rfl | rfl | rfl | rfl | rfl | rfl | rfl | rfl | rfl |
      rfl
    all_goals
      apply MemberReader.known_of_slot hnew rfl
      intro a ha
      simp only [name_requiredReader, name_optionalReader] at hnew ⊢
      simp [draftOf, said_concat_self hnew ha, said_concat_of_ne]
  foreign := by
    intro name hname done v d hd
    simp [readers] at hname
    rw [MemberReader.eq_of_ignore hd]
    simp [draftOf, said_concat_of_ne, Ne.symm, hname]

theorem ofJson_ofMembers {members : Named} (hnodup : (members.map Prod.fst).Nodup)
    (htakes : ∀ m ∈ members, MemberReader.Takes readers MemberReader.ignore m.1 m.2) :
    ofJson (.ofMembers members) = (draftOf members).toRecord := by
  have hread := drafts.readDraft_eq hnodup htakes "struct NativePerformanceEntry"
  unfold ofJson
  rw [show ({} : Draft) = draftOf [] from rfl, hread]
  rfl

/-! ### Members that describe a record -/

/-- The optional numbers of a record under their names. -/
def optionalFloats (r : Record) : List (String × Option Float) :=
  [("processingStart", r.processingStart), ("processingEnd", r.processingEnd),
    ("fetchStart", r.fetchStart), ("requestStart", r.requestStart),
    ("connectStart", r.connectStart), ("connectEnd", r.connectEnd),
    ("responseStart", r.responseStart), ("responseEnd", r.responseEnd)]

/-- The floating-point numbers of a record. -/
def floats (r : Record) : List Float :=
  [r.startTime, r.duration] ++ r.optionalFloats.flatMap (·.2.toList)

/-- The record with the optional numbers left out that are not finite. -/
def dropNonFinite (r : Record) : Record :=
  { r with
    processingStart := r.processingStart.filter isFinite
    processingEnd := r.processingEnd.filter isFinite
    fetchStart := r.fetchStart.filter isFinite
    requestStart := r.requestStart.filter isFinite
    connectStart := r.connectStart.filter isFinite
    connectEnd := r.connectEnd.filter isFinite
    responseStart := r.responseStart.filter isFinite
    responseEnd := r.responseEnd.filter isFinite }

theorem dropNonFinite_of_allExact {r : Record} (h : Numeral.AllExact r.floats) :
    r.dropNonFinite = r := by
  have hkeep : ∀ p ∈ r.optionalFloats, p.2.filter isFinite = p.2 := by
    intro p hp
    cases ho : p.2 with
    | none => rfl
    | some x =>
      have hx := h x (List.mem_append_right _ (List.mem_flatMap.mpr ⟨p, hp, by simp [ho]⟩))
      simp [Option.filter, hx.1]
  simp only [optionalFloats, List.forall_mem_cons, List.not_mem_nil, false_implies, implies_true,
    and_true] at hkeep
  obtain ⟨h₁, h₂, h₃, h₄, h₅, h₆, h₇, h₈⟩ := hkeep
  simp [dropNonFinite, *]

/-- The finite numbers of a record come back from their text. -/
def ReadsBack (r : Record) : Prop := ∀ x ∈ r.floats, isFinite x = true → Numeral.ReadsBack x

instance (r : Record) : Decidable r.ReadsBack :=
  inferInstanceAs (Decidable (∀ x ∈ r.floats, isFinite x = true → Numeral.ReadsBack x))

/-- The two numbers that a record must have are finite. -/
def IsTimed (r : Record) : Prop := isFinite r.startTime = true ∧ isFinite r.duration = true

instance (r : Record) : Decidable r.IsTimed :=
  inferInstanceAs (Decidable (isFinite r.startTime = true ∧ isFinite r.duration = true))

/-- Members that say what a record says, in any order, and nothing else. -/
structure Describes (r : Record) (members : Named) : Prop where
  nodup : (members.map Prod.fst).Nodup
  known : ∀ m ∈ members, m.1 ∈ readers.map (·.name)
  name : members.lookup "name" = some (.ofString r.name)
  entryType : members.lookup "entryType" = some r.entryType.toJson
  startTime : members.lookup "startTime" = some (.ofFloat r.startTime)
  duration : members.lookup "duration" = some (.ofFloat r.duration)
  optional : ∀ p ∈ r.optionalFloats, Gives members p.1 .ofFloat p.2
  interactionId : Gives members "interactionId" (fun n => .ofNat n.toNat) r.interactionId
  responseStatus : Gives members "responseStatus" (fun n => .ofNat n.toNat) r.responseStatus

namespace Describes

variable {r : Record} {members : Named}

theorem float_startTime (hback : r.ReadsBack) (htimed : r.IsTimed) :
    (Value.ofFloat r.startTime).float = .ok r.startTime :=
  Value.float_ofFloat htimed.1 (hback _ (by simp [floats]) htimed.1)

theorem float_duration (hback : r.ReadsBack) (htimed : r.IsTimed) :
    (Value.ofFloat r.duration).float = .ok r.duration :=
  Value.float_ofFloat htimed.2 (hback _ (by simp [floats]) htimed.2)

theorem optional_float (hback : r.ReadsBack) {p : String × Option Float} (hp : p ∈ r.optionalFloats)
    (x : Float) (hx : p.2 = some x) :
    Value.optional Value.float (.ofFloat x) = .ok ((some x).filter isFinite) := by
  apply Value.optional_float_ofFloat
  apply hback
  exact List.mem_append_right _ (List.mem_flatMap.mpr ⟨p, hp, by simp [hx]⟩)

theorem takes (h : r.Describes members) (hback : r.ReadsBack) (htimed : r.IsTimed) :
    ∀ m ∈ members, MemberReader.Takes readers MemberReader.ignore m.1 m.2 := by
  intro m hm
  obtain ⟨key, v⟩ := m
  have hv := lookup_of_mem h.nodup hm
  have hkey : key = "name" ∨ key = "entryType" ∨ key = "startTime" ∨ key = "duration" ∨
      key = "interactionId" ∨ key = "responseStatus" ∨ key ∈ r.optionalFloats.map Prod.fst := by
    have hknown := h.known _ hm
    simp [readers] at hknown
    simp [optionalFloats]
    grind
  obtain rfl | rfl | rfl | rfl | rfl | rfl | hkey := hkey
  · cases h.name.symm.trans hv
    exact MemberReader.takes_of_slot rfl (Value.string_ofString r.name)
  · cases h.entryType.symm.trans hv
    exact MemberReader.takes_of_slot rfl (EntryType.ofJson_toJson r.entryType)
  · cases h.startTime.symm.trans hv
    exact MemberReader.takes_of_slot rfl (float_startTime hback htimed)
  · cases h.duration.symm.trans hv
    exact MemberReader.takes_of_slot rfl (float_duration hback htimed)
  · obtain ⟨a, ha⟩ := h.interactionId.exists_read (fun n _ => Value.optional_word32_ofNat n) hv
    exact MemberReader.takes_of_slot rfl ha
  · obtain ⟨a, ha⟩ := h.responseStatus.exists_read (fun n _ => Value.optional_word16_ofNat n) hv
    exact MemberReader.takes_of_slot rfl ha
  -- the optional numbers, all alike but for their names
  · obtain ⟨p, hp, rfl⟩ := List.mem_map.mp hkey
    obtain ⟨a, ha⟩ := (h.optional p hp).exists_read (optional_float hback hp) hv
    simp only [optionalFloats, List.mem_cons, List.not_mem_nil, or_false] at hp
    rcases hp with rfl | rfl | rfl | rfl | rfl | rfl | rfl | rfl
    all_goals exact MemberReader.takes_of_slot rfl ha

theorem ofJson_eq (h : r.Describes members) (hback : r.ReadsBack) (htimed : r.IsTimed) :
    ofJson (.ofMembers members) = .ok r.dropNonFinite := by
  have hname := said_of_lookup h.name (Value.string_ofString r.name)
  have htype := said_of_lookup h.entryType (EntryType.ofJson_toJson r.entryType)
  have hstart := said_of_lookup h.startTime (float_startTime hback htimed)
  have hduration := said_of_lookup h.duration (float_duration hback htimed)
  have hid := h.interactionId.said_join fun n _ => Value.optional_word32_ofNat n
  have hstatus := h.responseStatus.said_join fun n _ => Value.optional_word16_ofNat n
  have hoptional : ∀ p ∈ r.optionalFloats,
      (said (Value.optional Value.float) p.1 members).join = p.2.filter isFinite := by
    intro p hp
    rw [(h.optional p hp).said_join (optional_float hback hp)]
    cases p.2 <;> rfl
  simp only [optionalFloats, List.forall_mem_cons, List.not_mem_nil, false_implies, implies_true,
    and_true] at hoptional
  obtain ⟨h₁, h₂, h₃, h₄, h₅, h₆, h₇, h₈⟩ := hoptional
  rw [ofJson_ofMembers h.nodup (h.takes hback htimed)]
  simp [Draft.toRecord, draftOf, MemberReader.require, bind, Except.bind, pure, Except.pure,
    dropNonFinite, *]

end Describes

/-! ### A record's own text -/

section Members

variable {α : Type} {name : String} {f : α → Value} {o : Option α}

theorem mem_optionalMember {m : String × Value} :
    m ∈ optionalMember name f o ↔ ∃ a, o = some a ∧ m = (name, f a) := by
  cases o <;> simp [optionalMember]

@[simp] theorem lookup_optionalMember (key : String) :
    (optionalMember name f o).lookup key = if key = name then o.map f else none := by
  cases o with
  | none => simp [optionalMember]
  | some a =>
    by_cases h : key = name
    · simp [optionalMember, h]
    · have hne : (key == name) = false := by simp [h]
      simp [optionalMember, List.lookup_cons, h, hne]

theorem keys_optionalMember : ((optionalMember name f o).map Prod.fst).Sublist [name] := by
  cases o <;> simp [optionalMember]

end Members

theorem keys_members (r : Record) : (r.members.map Prod.fst).Sublist (readers.map (·.name)) := by
  show (r.members.map Prod.fst).Sublist
    (["name", "entryType", "startTime", "duration"] ++ ["processingStart"] ++ ["processingEnd"] ++
      ["interactionId"] ++ ["fetchStart"] ++ ["requestStart"] ++ ["connectStart"] ++ ["connectEnd"] ++
      ["responseStart"] ++ ["responseEnd"] ++ ["responseStatus"])
  simp only [members, List.map_append]
  repeat' apply List.Sublist.append
  all_goals first | exact keys_optionalMember | exact .refl _

theorem describes_members (r : Record) : r.Describes r.members where
  nodup := (keys_members r).nodup (by decide)
  known := fun m hm => (keys_members r).subset (List.mem_map_of_mem hm)
  name := by simp [members]
  entryType := by simp [members, List.lookup_cons]
  startTime := by simp [members, List.lookup_cons]
  duration := by simp [members, List.lookup_cons]
  optional := by
    intro p hp
    apply Gives.of_lookup_map
    simp only [optionalFloats, List.mem_cons, List.not_mem_nil, or_false] at hp
    rcases hp with rfl | rfl | rfl | rfl | rfl | rfl | rfl | rfl
    all_goals simp [members, List.lookup_append, List.lookup_cons]
  interactionId := Gives.of_lookup_map (by simp [members, List.lookup_append, List.lookup_cons])
  responseStatus := Gives.of_lookup_map (by simp [members, List.lookup_append, List.lookup_cons])

/-- A start or a duration that is not finite is written as `null`, where a number is expected. -/
theorem ofJson_toJson_of_not_timed {r : Record} (hback : r.ReadsBack) (h : ¬ r.IsTimed) :
    ofJson r.toJson = .error (.cause (.wrongKind .null "f64")) := by
  have hname : MemberReader.Takes readers MemberReader.ignore "name" (.ofString r.name) :=
    MemberReader.takes_of_slot rfl (Value.string_ofString r.name)
  have htype : MemberReader.Takes readers MemberReader.ignore "entryType" r.entryType.toJson :=
    MemberReader.takes_of_slot rfl (EntryType.ofJson_toJson r.entryType)
  -- what stands in front of the member that is `null` is read
  have hread (done : Named) (key : String) (x : Float) (members : Named)
      (hmembers : r.members = done ++ (key, .ofFloat x) :: members)
      (hnodup : (done.map Prod.fst).Nodup)
      (htakes : ∀ m ∈ done, MemberReader.Takes readers MemberReader.ignore m.1 m.2)
      (herror : MemberReader.readNamed readers MemberReader.ignore key (.ofFloat x) (draftOf done) =
        .error (.cause (.wrongKind .null "f64"))) :
      ofJson r.toJson = .error (.cause (.wrongKind .null "f64")) := by
    have hdraft := drafts.readDraft_error hnodup htakes herror "struct NativePerformanceEntry" members
    rw [toJson, ofJson, hmembers, show ({} : Draft) = draftOf [] from rfl, hdraft]
    rfl
  cases hs : isFinite r.startTime with
  | false =>
    apply hread [("name", .ofString r.name), ("entryType", r.entryType.toJson)] "startTime"
      r.startTime _ rfl (by simp) (by simp [hname, htype])
    exact MemberReader.readNamed_error_of_slot rfl rfl (Value.float_ofFloat_of_not_finite hs)
  | true =>
    have hd : isFinite r.duration = false := by simpa [IsTimed, hs] using h
    have hstart : MemberReader.Takes readers MemberReader.ignore "startTime" (.ofFloat r.startTime) :=
      MemberReader.takes_of_slot rfl (Value.float_ofFloat hs (hback _ (by simp [floats]) hs))
    apply hread [("name", .ofString r.name), ("entryType", r.entryType.toJson),
      ("startTime", .ofFloat r.startTime)] "duration" r.duration _ rfl (by simp)
      (by simp [hname, htype, hstart])
    exact MemberReader.readNamed_error_of_slot rfl rfl (Value.float_ofFloat_of_not_finite hd)

/-- What holds of each kind of value holds of all that a record writes. -/
theorem forall_members {P : Value → Prop} {r : Record} (hstring : ∀ s, P (.ofString s))
    (hnat : ∀ n ≤ Numeral.maxSignificand, P (.ofNat n)) (hfloat : ∀ x ∈ r.floats, P (.ofFloat x)) :
    ∀ m ∈ r.members, P m.2 := by
  intro m hm
  simp only [members, List.mem_append, List.mem_cons, List.not_mem_nil, or_false,
    mem_optionalMember] at hm
  rcases hm with ((((((((((rfl | rfl | rfl | rfl) | ⟨a, ha, rfl⟩) | ⟨a, ha, rfl⟩) | ⟨n, -, rfl⟩) |
    ⟨a, ha, rfl⟩) | ⟨a, ha, rfl⟩) | ⟨a, ha, rfl⟩) | ⟨a, ha, rfl⟩) | ⟨a, ha, rfl⟩) | ⟨a, ha, rfl⟩) |
    ⟨n, -, rfl⟩
  · exact hstring _
  · exact hstring _
  case inr => exact hnat _ (Nat.le_trans (Nat.le_of_lt n.toNat_lt) (by decide))
  case inl.inl.inl.inl.inl.inl.inl.inr =>
    exact hnat _ (Nat.le_trans (Nat.le_of_lt n.toNat_lt) (by decide))
  all_goals exact hfloat _ (by simp [floats, optionalFloats, *])

theorem isProper_toJson (r : Record) : r.toJson.IsProper :=
  Value.isProper_ofMembers (forall_members Value.isProper_ofString (fun n _ => Value.isProper_ofNat n)
    fun x _ => Value.isProper_ofFloat x)

/-! ### Lists of records -/

theorem mapM_ofJson (rs : List Record) (hback : ∀ r ∈ rs, r.ReadsBack) :
    (rs.map toJson).mapM ofJson =
      if ∀ r ∈ rs, r.IsTimed then .ok (rs.map dropNonFinite)
      else .error (.cause (.wrongKind .null "f64")) := by
  induction rs with
  | nil => rfl
  | cons r rs ih =>
    have hr := hback r List.mem_cons_self
    have hrs := ih fun s hs => hback s (List.mem_cons_of_mem r hs)
    rw [List.map_cons, List.mapM_cons]
    by_cases htimed : r.IsTimed
    · rw [toJson, (describes_members r).ofJson_eq hr htimed, hrs]
      by_cases hall : ∀ s ∈ rs, s.IsTimed
      · rw [if_pos hall, if_pos (by simpa [htimed] using hall)]
        rfl
      · rw [if_neg hall, if_neg (by simpa [htimed] using hall)]
        rfl
    · rw [ofJson_toJson_of_not_timed hr htimed, if_neg (by simp [htimed])]
      rfl

/-- Records and their text. The text is JSON for any records. It is read as records exactly when the start
and the duration of each of them are finite, and then gives them back in order, with the optional numbers
absent that are not finite. Otherwise it says something wrong: a `null` where a number must be. -/
theorem listOf_listToText (rs : List Record) (hback : ∀ r ∈ rs, r.ReadsBack) :
    Document.ofString (listToText rs) = ⟨.ofList (rs.map toJson), false⟩ ∧
    (Document.ofString (listToText rs)).read (Value.listOf ofJson) =
      if ∀ r ∈ rs, r.IsTimed then .ok (rs.map dropNonFinite)
      else .error (.cause (.wrongKind .null "f64")) := by
  have hproper : (Value.ofList (rs.map toJson)).IsProper := by
    apply Value.isProper_ofList
    intro v hv
    obtain ⟨r, -, rfl⟩ := List.mem_map.mp hv
    exact isProper_toJson r
  refine ⟨Document.ofString_render hproper, ?_⟩
  rw [listToText, Document.read_render hproper, Value.ofList, Value.listOf, mapM_ofJson rs hback]
  split <;> rfl

/-- A number that is not finite is lost where it is optional, and spoils the text where it is not. -/
theorem listOf_listToText_not_finite :
    let plain : Record := { name := "\u00e9\n", entryType := .mark, startTime := 1.5, duration := 0.0 }
    let holed : Record :=
      { name := "r", entryType := .resource, startTime := 0.1, duration := -2.5
        fetchStart := some (0.0 / 0.0), responseEnd := some 4e20, responseStatus := some 404 }
    let untimed : Record := { plain with duration := 1.0 / 0.0 }
    (∀ r ∈ [plain, holed, untimed], r.ReadsBack) ∧
    (Document.ofString (listToText [plain, holed])).read (Value.listOf ofJson) =
      .ok [plain, { holed with fetchStart := none }] ∧
    (Document.ofString (listToText [plain, untimed])).read (Value.listOf ofJson) =
      .error (.cause (.wrongKind .null "f64")) := by
  intro plain holed untimed
  have hback : ∀ r ∈ [plain, holed, untimed], r.ReadsBack := by decide +kernel
  have htimed := (listOf_listToText [plain, holed] fun r hr => hback r (by grind)).2
  have huntimed := (listOf_listToText [plain, untimed] fun r hr => hback r (by grind)).2
  rw [if_pos (by decide +kernel)] at htimed
  rw [if_neg (by decide +kernel)] at huntimed
  exact ⟨hback, htimed.trans (congrArg Except.ok (by decide +kernel)), huntimed⟩

end Record

end PerfTimeline
