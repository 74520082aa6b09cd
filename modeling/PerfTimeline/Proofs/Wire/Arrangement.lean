import PerfTimeline.Proofs.Json.Arrangement
import PerfTimeline.Proofs.Wire.Entry

/-!
# Entries in another arrangement

The text of an entry may have its members in any order, since those that are not of the header are put aside
until the type is known, and other members among them, as long as these can be put aside. Of its own members
those that hold an optional time or the status may be missing; without any of the others there is no entry.
-/

namespace PerfTimeline

open PerfTimeline.Json

/-- The names of the members without which details cannot be read. -/
def Details.required : Details → List String
  | .mark | .measure | .longTask => []
  | .event _ => ["processingStart", "processingEnd", "interactionId"]
  | .resource _ => ["fetchStart", "requestStart", "responseEnd"]

/-- The timing of a resource of which some optional members are not known. -/
def ResourceTiming.without (omitted : List String) (t : ResourceTiming) : ResourceTiming :=
  { t with
    connectStart := if "connectStart" ∈ omitted then none else t.connectStart
    connectEnd := if "connectEnd" ∈ omitted then none else t.connectEnd
    responseStart := if "responseStart" ∈ omitted then none else t.responseStart
    responseStatus := if "responseStatus" ∈ omitted then none else t.responseStatus }

/-- No other details have optional members. -/
def Details.without (omitted : List String) : Details → Details
  | .resource t => .resource (t.without omitted)
  | d => d

namespace Entry

/-- The names of the members without which an entry cannot be read. -/
def required (e : Entry) : List String :=
  ["name", "startTime", "duration", "entryType"] ++ e.details.required

/-- An entry of which some optional members are not known. -/
def without (omitted : List String) (e : Entry) : Entry := { e with details := e.details.without omitted }

variable {omitted : List String} {members : Named}

/-! ### Details -/

theorem eventOfAside_arranged {t : EventTiming} (h : Arranged (detailsToJson (.event t)) omitted members)
    (hexact : Numeral.AllExact (detailsFloats (.event t))) :
    eventOfAside members = demand (Details.event t).required omitted (.ok t) := by
  have hstart := timeOfJson_timeToJson hexact (t := t.processingStart) (by simp [detailsFloats])
  have hend := timeOfJson_timeToJson hexact (t := t.processingEnd) (by simp [detailsFloats])
  have hid := Value.word32_ofNat t.interactionId
  have hknown : ∀ reader ∈ eventReaders, ∃ v, (detailsToJson (.event t)).lookup reader.name = some v ∧
      ∀ d, ∃ d', reader.read v d = .ok d' := by
    intro reader hreader
    simp only [eventReaders, List.mem_cons, List.not_mem_nil, or_false] at hreader
    obtain rfl | rfl | rfl := hreader
    · exact ⟨_, rfl, MemberReader.exists_read_of_slot hstart⟩
    · exact ⟨_, rfl, MemberReader.exists_read_of_slot hend⟩
    · exact ⟨_, rfl, MemberReader.exists_read_of_slot hid⟩
  have hread : readAside eventReaders {} members = .ok (eventDraftOf members) :=
    h.readAll_eq eventDrafts hknown fun _ _ _ d => ⟨d, rfl⟩
  rw [eventOfAside, hread]
  show EventDraft.toTiming (eventDraftOf members) = _
  rw [EventDraft.toTiming, eventDraftOf]
  simp only [h.said "processingStart" rfl hstart, h.said "processingEnd" rfl hend,
    h.said "interactionId" rfl hid]
  exact require_bind (require_bind (require_bind rfl))

theorem optional_ofOption {α : Type} {read : Value → Read α} {f : α → Value} {o : Option α}
    (h : ∀ a, o = some a → Value.optional read (f a) = .ok (some a)) :
    Value.optional read (Value.ofOption f o) = .ok o := by
  cases o with
  | none => rfl
  | some a => exact h a rfl

theorem join_unless {α : Type} (p : Prop) [Decidable p] (o : Option α) :
    (if p then none else some o).join = if p then none else o := by
  split <;> rfl

theorem resourceOfAside_arranged {t : ResourceTiming}
    (h : Arranged (detailsToJson (.resource t)) omitted members)
    (hexact : Numeral.AllExact (detailsFloats (.resource t))) :
    resourceOfAside members = demand (Details.resource t).required omitted (.ok (t.without omitted)) := by
  have hfetch := timeOfJson_timeToJson hexact (t := t.fetchStart) (by simp [detailsFloats, resourceFloats])
  have hrequest := timeOfJson_timeToJson hexact (t := t.requestStart)
    (by simp [detailsFloats, resourceFloats])
  have hend := timeOfJson_timeToJson hexact (t := t.responseEnd) (by simp [detailsFloats, resourceFloats])
  have hoption {o : Option TimeStamp} (ho : o ∈ [t.connectStart, t.connectEnd, t.responseStart]) :
      Value.optional timeOfJson (Value.ofOption timeToJson o) = .ok o := by
    refine optional_ofOption fun a ha => optional_timeOfJson_timeToJson hexact ?_
    exact List.mem_append_right _ (List.mem_flatMap.mpr ⟨o, ho, by simp [ha]⟩)
  have hconnectStart := hoption (o := t.connectStart) (by simp)
  have hconnectEnd := hoption (o := t.connectEnd) (by simp)
  have hresponseStart := hoption (o := t.responseStart) (by simp)
  have hstatus : Value.optional Value.word16
      (Value.ofOption (fun n => .ofNat n.toNat) t.responseStatus) = .ok t.responseStatus :=
    optional_ofOption fun n _ => Value.optional_word16_ofNat n
  have hknown : ∀ reader ∈ resourceReaders,
      ∃ v, (detailsToJson (.resource t)).lookup reader.name = some v ∧
        ∀ d, ∃ d', reader.read v d = .ok d' := by
    intro reader hreader
    simp only [resourceReaders, List.mem_cons, List.not_mem_nil, or_false] at hreader
    obtain rfl | rfl | rfl | rfl | rfl | rfl | rfl := hreader
    · exact ⟨_, rfl, MemberReader.exists_read_of_slot hfetch⟩
    · exact ⟨_, rfl, MemberReader.exists_read_of_slot hrequest⟩
    · exact ⟨_, rfl, MemberReader.exists_read_of_slot hconnectStart⟩
    · exact ⟨_, rfl, MemberReader.exists_read_of_slot hconnectEnd⟩
    · exact ⟨_, rfl, MemberReader.exists_read_of_slot hresponseStart⟩
    · exact ⟨_, rfl, MemberReader.exists_read_of_slot hend⟩
    · exact ⟨_, rfl, MemberReader.exists_read_of_slot hstatus⟩
  have hread : readAside resourceReaders {} members = .ok (resourceDraftOf members) :=
    h.readAll_eq resourceDrafts hknown fun _ _ _ d => ⟨d, rfl⟩
  rw [resourceOfAside, hread]
  show ResourceDraft.toTiming (resourceDraftOf members) = _
  rw [ResourceDraft.toTiming, resourceDraftOf]
  simp only [h.said "fetchStart" rfl hfetch, h.said "requestStart" rfl hrequest,
    h.said "connectStart" rfl hconnectStart, h.said "connectEnd" rfl hconnectEnd,
    h.said "responseStart" rfl hresponseStart, h.said "responseEnd" rfl hend,
    h.said "responseStatus" rfl hstatus, join_unless]
  exact require_bind (require_bind (require_bind rfl))

/-! ### The type and the details -/

theorem detailsOfAside_arranged {d : Details} {aside : Aside}
    (h : Arranged (("entryType", d.entryType.toJson) :: detailsToJson d) omitted aside)
    (hexact : Numeral.AllExact (detailsFloats d)) :
    detailsOfAside aside = demand ("entryType" :: d.required) omitted (.ok (d.without omitted)) := by
  have hmem : "entryType" ∈ (("entryType", d.entryType.toJson) :: detailsToJson d).map Prod.fst :=
    List.mem_cons_self
  have hlookup := h.lookup "entryType" hmem
  rw [List.lookup_cons_self] at hlookup
  rw [demand_cons]
  split
  · next homitted =>
    rw [if_pos homitted] at hlookup
    rw [detailsOfAside, splitType_missing (not_mem_of_lookup hlookup)]
    rfl
  · next hkept =>
    rw [if_neg hkept] at hlookup
    have hrest := h.filter (· != "entryType")
    have hown : (("entryType", d.entryType.toJson) :: detailsToJson d).filter (fun m => m.1 != "entryType") =
        detailsToJson d := by
      cases d <;> rfl
    rw [hown] at hrest
    rw [detailsOfAside, splitType_none (h.once _ hmem) hlookup (typeOfAside_toJson d.entryType)]
    cases d with
    | mark => rfl
    | measure => rfl
    | longTask => rfl
    | event t =>
      show (eventOfAside _ >>= fun t => .ok (Details.event t)) = _
      rw [eventOfAside_arranged hrest hexact, demand_bind]
      rfl
    | resource t =>
      show (resourceOfAside _ >>= fun t => .ok (Details.resource t)) = _
      rw [resourceOfAside_arranged hrest hexact, demand_bind]
      rfl

/-! ### Entries -/

theorem filter_members (e : Entry) : e.members.filter (fun m => !isHeader m.1) =
    ("entryType", e.details.entryType.toJson) :: detailsToJson e.details := by
  obtain ⟨name, start, duration, details, sequence⟩ := e
  cases details <;> rfl

theorem ofJson_arranged {e : Entry} {raw : List (RawText × Value)} (hexact : Numeral.AllExact e.floats)
    (h : Arranged e.members omitted members) (hheld : ∀ m ∈ members, m.2.hold asideDepth = .ok ())
    (hraw : Spells raw members) :
    ofJson (.object raw .closed) =
      demand e.required omitted (.ok ((e.without omitted).withSequence 0)) := by
  have hname := Value.string_ofString e.name
  have hstart := timeOfJson_timeToJson hexact (t := e.start) (by simp [floats])
  have hduration : durationOfJson (.ofFloat e.duration.millis) = .ok e.duration := by
    have hx := hexact e.duration.millis (by simp [floats])
    rw [durationOfJson, Value.float_ofFloat hx.1 hx.2]
    rfl
  have hknown : ∀ reader ∈ headerReaders, ∃ v, e.members.lookup reader.name = some v ∧
      ∀ d, ∃ d', reader.read v d = .ok d' := by
    intro reader hreader
    simp only [headerReaders, List.mem_cons, List.not_mem_nil, or_false] at hreader
    obtain rfl | rfl | rfl := hreader
    · exact ⟨_, rfl, MemberReader.exists_read_of_slot hname⟩
    · exact ⟨_, rfl, MemberReader.exists_read_of_slot hstart⟩
    · exact ⟨_, rfl, MemberReader.exists_read_of_slot hduration⟩
  have hforeign : ∀ m ∈ members, m.1 ∉ headerReaders.map (·.name) →
      ∀ d, ∃ d', putAside m.1 m.2 d = .ok d' := by
    intro m hm _ d
    refine ⟨{ d with aside := d.aside ++ [(m.1, m.2)] }, ?_⟩
    rw [putAside, hheld m hm]
    rfl
  have haside := h.filter (!isHeader ·)
  rw [filter_members] at haside
  have hdetails := detailsOfAside_arranged haside fun x hx =>
    hexact x (List.mem_cons_of_mem _ (List.mem_cons_of_mem _ hx))
  have hread := h.readAll_eq drafts hknown hforeign
  rw [ofJson, MemberReader.readMembers_of_spells hraw, show ({} : Draft) = draftOf [] from rfl, hread]
  show (draftOf members).toEntry = _
  rw [Draft.toEntry, draftOf]
  simp only [h.said "name" rfl hname, h.said "startTime" rfl hstart,
    h.said "duration" rfl hduration, hdetails, demand_bind]
  exact require_bind (require_bind (require_bind rfl))

/-- The text of an entry may have its members in any order and with any spelling of their names, and other
members with readable values among them, repetitions included. It is read as the entry, which then counts
as never stored. A member that is omitted is not known if it is optional; otherwise it is missed. -/
theorem ofText_arranged {e : Entry} (hfinite : ∀ x ∈ e.floats, isFinite x = true)
    (hback : ∀ x ∈ e.floats, Numeral.ReadsBack x) {omitted : List String} {foreign members : Named}
    (hforeign : ∀ m ∈ foreign, m.1 ∉ e.members.map Prod.fst ∧ m.2.IsReadable ∧ m.2.depth ≤ asideDepth)
    (hperm : members.Perm (e.members.filter (·.1 ∉ omitted) ++ foreign))
    {raw : List (RawText × Value)} (hraw : Spells raw members) {text : String}
    (htext : Document.ofString text = ⟨.object raw .closed, false⟩) :
    (Document.ofString text).read ofJson =
      match e.required.find? (· ∈ omitted) with
      | none => .ok ((e.without omitted).withSequence 0)
      | some name => .error (.cause (.missingMember name)) := by
  have hexact : Numeral.AllExact e.floats := fun x hx => ⟨hfinite x hx, hback x hx⟩
  have hnodup := (describes_members hexact).nodup
  have harranged := Arranged.of_perm hnodup (fun m hm => (hforeign m hm).1) hperm
  have hheld : ∀ m ∈ members, m.2.hold asideDepth = .ok () := by
    intro m hm
    rcases List.mem_append.mp (hperm.subset hm) with hm | hm
    · exact hold_members hexact m (List.mem_filter.mp hm).1
    · exact (Value.hold_eq_ok_iff m.2 asideDepth).mpr (hforeign m hm).2
  have hread := ofJson_arranged hexact harranged hheld hraw
  rw [htext, Document.read, hread]
  show (demand e.required omitted (.ok _) >>= _) = _
  rw [demand_bind]
  rfl

/-- A fetch told backwards, behind a member of an input event that is given twice and a list. -/
theorem ofText_arranged_backwards :
    let e := resource "fetch" ⟨1.5⟩ ⟨⟨1.5⟩, ⟨2.25⟩, some ⟨2.5⟩, none, some ⟨4.0⟩, ⟨8.0⟩, some 200⟩
    let foreign : Named := [("processingStart", .null), ("hops", .ofList [.ofList [.ofNat 1], .bool true]),
      ("processingStart", .ofString "later")]
    let members (omitted : List String) := foreign ++ (e.members.filter (·.1 ∉ omitted)).reverse
    let text (omitted : List String) := (Value.ofMembers (members omitted)).render
    (∀ x ∈ e.floats, isFinite x = true) ∧ (∀ x ∈ e.floats, Numeral.ReadsBack x) ∧
    (∀ m ∈ foreign, m.1 ∉ e.members.map Prod.fst ∧ m.2.IsReadable ∧ m.2.depth ≤ asideDepth) ∧
    (∀ omitted, (members omitted).Perm (e.members.filter (·.1 ∉ omitted) ++ foreign)) ∧
    (Document.ofString (text ["connectStart"])).read ofJson =
      .ok (resource "fetch" ⟨1.5⟩ ⟨⟨1.5⟩, ⟨2.25⟩, none, none, some ⟨4.0⟩, ⟨8.0⟩, some 200⟩) ∧
    (Document.ofString (text ["responseStatus", "responseEnd"])).read ofJson =
      .error (.cause (.missingMember "responseEnd")) := by
  intro e foreign members text
  have hfinite : ∀ x ∈ e.floats, isFinite x = true := by decide +kernel
  have hback : ∀ x ∈ e.floats, Numeral.ReadsBack x := by decide +kernel
  have hforeign : ∀ m ∈ foreign, m.1 ∉ e.members.map Prod.fst ∧ m.2.IsReadable ∧
      m.2.depth ≤ asideDepth := by
    intro m hm
    simp only [foreign, List.mem_cons, List.not_mem_nil, or_false] at hm
    have hone : (Numeral.ofNat 1).number?.isSome = true := by
      rw [Numeral.number?_ofNat (by decide)]
      rfl
    obtain rfl | rfl | rfl := hm
    · exact ⟨by decide, trivial, by decide⟩
    · exact ⟨by decide, ⟨⟨hone, trivial⟩, trivial, trivial⟩, by decide⟩
    · exact ⟨by decide, ⟨_, RawText.read_ofString _⟩, by decide⟩
  have hperm (omitted : List String) :
      (members omitted).Perm (e.members.filter (·.1 ∉ omitted) ++ foreign) :=
    List.perm_append_comm.trans ((List.reverse_perm _).append_right foreign)
  have hproper (omitted : List String) : (Value.ofMembers (members omitted)).IsProper := by
    refine Value.isProper_ofMembers fun m hm => ?_
    rcases List.mem_append.mp hm with hm | hm
    · simp only [foreign, List.mem_cons, List.not_mem_nil, or_false] at hm
      obtain rfl | rfl | rfl := hm
      · trivial
      · exact ⟨⟨Value.isProper_ofNat 1, trivial⟩, trivial, trivial⟩
      · exact Value.isProper_ofString _
    · exact isProper_members e m (List.mem_filter.mp (List.mem_reverse.mp hm)).1
  have hread (omitted : List String) :=
    ofText_arranged hfinite hback hforeign (hperm omitted) (spells_ofString (members omitted))
      (Document.ofString_render (hproper omitted))
  refine ⟨hfinite, hback, hforeign, hperm, ?_, ?_⟩
  · exact (hread ["connectStart"]).trans rfl
  · exact (hread ["responseStatus", "responseEnd"]).trans rfl

end Entry

end PerfTimeline
