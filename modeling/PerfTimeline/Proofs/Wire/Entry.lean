import PerfTimeline.Proofs.Json.Members
import PerfTimeline.Proofs.Json.Simple
import PerfTimeline.Wire.Entry

/-!
# Entries, written and read

An entry is read from any members that describe it (`Entry.Describes`): the header, the type and the members
of its own details, in any order, and others as long as they can be put aside.
-/

namespace PerfTimeline.Entry

open PerfTimeline.Json

@[simp] theorem name_detailReader {δ α : Type} (name : String) (read : Value → Read α)
    (get : δ → Option α) (set : α → δ → δ) : (detailReader name read get set).name = name := rfl

/-! ### Times -/

variable {xs : List Float} {t : TimeStamp}

theorem timeOfJson_timeToJson (h : Numeral.AllExact xs) (ht : t.millis ∈ xs) :
    timeOfJson (timeToJson t) = .ok t := by
  rw [timeOfJson, timeToJson, Value.float_ofFloat (h _ ht).1 (h _ ht).2]
  rfl

theorem optional_timeOfJson_timeToJson (h : Numeral.AllExact xs) (ht : t.millis ∈ xs) :
    Value.optional timeOfJson (timeToJson t) = .ok (some t) := by
  have hread := timeOfJson_timeToJson h ht
  simp only [timeToJson, Value.ofFloat, (h _ ht).1, if_true] at hread ⊢
  rw [Value.optional, hread]
  · rfl
  · simp
  · simp

/-! ### Details -/

/-- Members that were put aside are left alone where nothing asks for them. -/
def leave {δ : Type} (_ : String) (_ : Value) (d : δ) : Read δ := .ok d

/-- The draft of an event that members leave behind. -/
def eventDraftOf (members : Named) : EventDraft where
  processingStart := said timeOfJson "processingStart" members
  processingEnd := said timeOfJson "processingEnd" members
  interactionId := said Value.word32 "interactionId" members

theorem eventDrafts : MemberReader.Drafts eventReaders leave eventDraftOf where
  known := by
    intro reader hreader done v hnew
    simp only [eventReaders, List.mem_cons, List.not_mem_nil, or_false] at hreader
    rcases hreader with rfl | rfl | rfl
    all_goals
      apply MemberReader.known_of_slot hnew rfl
      intro a ha
      simp only [name_detailReader] at hnew ⊢
      simp [eventDraftOf, said_concat_self hnew ha, said_concat_of_ne]
  foreign := by
    intro name hname done v d hd
    simp [eventReaders] at hname
    cases hd
    simp [eventDraftOf, said_concat_of_ne, Ne.symm, hname]

/-- The draft of a resource that members leave behind. -/
def resourceDraftOf (members : Named) : ResourceDraft where
  fetchStart := said timeOfJson "fetchStart" members
  requestStart := said timeOfJson "requestStart" members
  connectStart := said (Value.optional timeOfJson) "connectStart" members
  connectEnd := said (Value.optional timeOfJson) "connectEnd" members
  responseStart := said (Value.optional timeOfJson) "responseStart" members
  responseEnd := said timeOfJson "responseEnd" members
  responseStatus := said (Value.optional Value.word16) "responseStatus" members

theorem resourceDrafts : MemberReader.Drafts resourceReaders leave resourceDraftOf where
  known := by
    intro reader hreader done v hnew
    simp only [resourceReaders, List.mem_cons, List.not_mem_nil, or_false] at hreader
    rcases hreader with rfl | rfl | rfl | rfl | rfl | rfl | rfl
    all_goals
      apply MemberReader.known_of_slot hnew rfl
      intro a ha
      simp only [name_detailReader] at hnew ⊢
      simp [resourceDraftOf, said_concat_self hnew ha, said_concat_of_ne]
  foreign := by
    intro name hname done v d hd
    simp [resourceReaders] at hname
    cases hd
    simp [resourceDraftOf, said_concat_of_ne, Ne.symm, hname]

/-! ### The header -/

/-- Whether a member is read as it comes. -/
def isHeader (name : String) : Bool := ["name", "startTime", "duration"].contains name

/-- The draft of an entry that members leave behind. -/
def draftOf (members : Named) : Draft where
  name := said Value.string "name" members
  start := said timeOfJson "startTime" members
  duration := said durationOfJson "duration" members
  aside := members.filter fun m => !isHeader m.1

theorem drafts : MemberReader.Drafts headerReaders putAside draftOf where
  known := by
    intro reader hreader done v hnew
    simp only [headerReaders, List.mem_cons, List.not_mem_nil, or_false] at hreader
    rcases hreader with rfl | rfl | rfl
    all_goals
      apply MemberReader.known_of_slot hnew rfl
      intro a ha
      simp only [name_detailReader] at hnew ⊢
      simp [draftOf, said_concat_self hnew ha, said_concat_of_ne, isHeader]
  foreign := by
    intro name hname done v d hd
    simp [headerReaders] at hname
    cases hhold : v.hold asideDepth with
    | error f => simp [putAside, hhold, Read.ofFlaw, bind, Except.bind] at hd
    | ok u =>
      simp [putAside, hhold, Read.ofFlaw, bind, Except.bind, pure, Except.pure] at hd
      rw [← hd]
      simp [draftOf, said_concat_of_ne, Ne.symm, hname, isHeader]

theorem ofJson_ofMembers {members : Named} (hnodup : (members.map Prod.fst).Nodup)
    (htakes : ∀ m ∈ members, MemberReader.Takes headerReaders putAside m.1 m.2) :
    ofJson (.ofMembers members) = (draftOf members).toEntry := by
  rw [Value.ofMembers, ofJson, MemberReader.readMembers_ofString,
    show ({} : Draft) = draftOf [] from rfl, drafts.readAll_eq hnodup htakes]
  rfl

/-! ### The type -/

theorem splitType_some {aside : Aside} (t : EntryType) (h : "entryType" ∉ aside.map Prod.fst) :
    splitType aside (some t) = .ok (t, aside) := by
  induction aside with
  | nil => rfl
  | cons m ms ih =>
    obtain ⟨name, v⟩ := m
    rw [List.map_cons, List.mem_cons, not_or] at h
    rw [splitType, if_neg (Ne.symm h.1), ih h.2]
    rfl

theorem splitType_none {aside : Aside} {v : Value} {t : EntryType}
    (honce : (aside.map Prod.fst).count "entryType" ≤ 1) (hlookup : aside.lookup "entryType" = some v)
    (ht : typeOfAside v = .ok t) :
    splitType aside none = .ok (t, aside.filter fun m => m.1 != "entryType") := by
  induction aside with
  | nil => cases hlookup
  | cons m ms ih =>
    obtain ⟨name, w⟩ := m
    rw [List.map_cons, List.count_cons] at honce
    by_cases hname : name = "entryType"
    · have hw : w = v := by simpa [List.lookup_cons, hname] using hlookup
      have hnone : "entryType" ∉ ms.map Prod.fst := by
        rw [← List.count_eq_zero]
        simpa [hname] using honce
      have hrest : ms.filter (fun m => m.1 != "entryType") = ms := by
        rw [List.filter_eq_self]
        intro m hm
        have hmem : m.1 ∈ ms.map Prod.fst := List.mem_map_of_mem hm
        have hne : m.1 ≠ "entryType" := ne_of_mem_of_not_mem hmem hnone
        simpa using hne
      rw [hname, splitType, if_pos rfl, hw, ht]
      show splitType ms (some t) = _
      rw [splitType_some t hnone, List.filter_cons_of_neg (by simp), hrest]
    · have hne : ("entryType" == name) = false := by simp [Ne.symm hname]
      have hrest := Nat.le_trans (Nat.le_add_right ..) honce
      rw [List.lookup_cons, hne] at hlookup
      rw [splitType, if_neg hname, ih hrest hlookup, List.filter_cons_of_pos (by simpa using hname)]
      rfl

theorem splitType_missing {aside : Aside} (h : "entryType" ∉ aside.map Prod.fst) :
    splitType aside none = .error (.cause (.missingMember "entryType")) := by
  induction aside with
  | nil => rfl
  | cons m ms ih =>
    obtain ⟨name, v⟩ := m
    rw [List.map_cons, List.mem_cons, not_or] at h
    rw [splitType, if_neg (Ne.symm h.1), ih h.2]
    rfl

theorem typeOfAside_toJson (t : EntryType) : typeOfAside t.toJson = .ok t := by
  simp [typeOfAside, EntryType.toJson, Value.ofString, RawText.read_ofString, Read.ofFlaw,
    EntryType.ofName?_name, bind, Except.bind, pure, Except.pure]

/-! ### Members that describe details -/

/-- Members that say what the timing of an event says, among others. -/
structure DescribesEvent (t : EventTiming) (members : Named) : Prop where
  processingStart : members.lookup "processingStart" = some (timeToJson t.processingStart)
  processingEnd : members.lookup "processingEnd" = some (timeToJson t.processingEnd)
  interactionId : members.lookup "interactionId" = some (.ofNat t.interactionId.toNat)

theorem DescribesEvent.eventOfAside_eq {t : EventTiming} {members : Named}
    (h : DescribesEvent t members) (hnodup : (members.map Prod.fst).Nodup)
    (hexact : Numeral.AllExact [t.processingStart.millis, t.processingEnd.millis]) :
    eventOfAside members = .ok t := by
  have hstart := timeOfJson_timeToJson hexact (t := t.processingStart) (by simp)
  have hend := timeOfJson_timeToJson hexact (t := t.processingEnd) (by simp)
  have hid := Value.word32_ofNat t.interactionId
  have hknown : ∀ reader ∈ eventReaders, ∀ v, members.lookup reader.name = some v →
      ∀ d, ∃ d', reader.read v d = .ok d' := by
    intro reader hreader v hv
    simp only [eventReaders, List.mem_cons, List.not_mem_nil, or_false] at hreader
    obtain rfl | rfl | rfl := hreader
    · cases h.processingStart.symm.trans hv
      exact MemberReader.exists_read_of_slot hstart
    · cases h.processingEnd.symm.trans hv
      exact MemberReader.exists_read_of_slot hend
    · cases h.interactionId.symm.trans hv
      exact MemberReader.exists_read_of_slot hid
  have htakes : ∀ m ∈ members, MemberReader.Takes eventReaders leave m.1 m.2 :=
    MemberReader.takes_of_known hnodup hknown fun _ _ _ d => ⟨d, rfl⟩
  have hread : readAside eventReaders {} members = .ok (eventDraftOf members) :=
    eventDrafts.readAll_eq hnodup htakes
  rw [eventOfAside, hread]
  simp [EventDraft.toTiming, eventDraftOf, said_of_lookup h.processingStart hstart,
    said_of_lookup h.processingEnd hend, said_of_lookup h.interactionId hid, MemberReader.require,
    bind, Except.bind, pure, Except.pure]

/-- Members that say what the timing of a resource says, among others. -/
structure DescribesResource (t : ResourceTiming) (members : Named) : Prop where
  fetchStart : members.lookup "fetchStart" = some (timeToJson t.fetchStart)
  requestStart : members.lookup "requestStart" = some (timeToJson t.requestStart)
  connectStart : Gives members "connectStart" timeToJson t.connectStart
  connectEnd : Gives members "connectEnd" timeToJson t.connectEnd
  responseStart : Gives members "responseStart" timeToJson t.responseStart
  responseEnd : members.lookup "responseEnd" = some (timeToJson t.responseEnd)
  responseStatus : Gives members "responseStatus" (fun n => .ofNat n.toNat) t.responseStatus

/-- The floating-point numbers of the timing of a resource. -/
def resourceFloats (t : ResourceTiming) : List Float :=
  [t.fetchStart, t.requestStart, t.responseEnd].map (·.millis) ++
    [t.connectStart, t.connectEnd, t.responseStart].flatMap (·.toList.map (·.millis))

theorem DescribesResource.resourceOfAside_eq {t : ResourceTiming} {members : Named}
    (h : DescribesResource t members) (hnodup : (members.map Prod.fst).Nodup)
    (hexact : Numeral.AllExact (resourceFloats t)) : resourceOfAside members = .ok t := by
  have hfetch := timeOfJson_timeToJson hexact (t := t.fetchStart) (by simp [resourceFloats])
  have hrequest := timeOfJson_timeToJson hexact (t := t.requestStart) (by simp [resourceFloats])
  have hend := timeOfJson_timeToJson hexact (t := t.responseEnd) (by simp [resourceFloats])
  have hoption {o : Option TimeStamp} (ho : o ∈ [t.connectStart, t.connectEnd, t.responseStart])
      (b : TimeStamp) (hb : o = some b) :
      Value.optional timeOfJson (timeToJson b) = .ok (some b) := by
    apply optional_timeOfJson_timeToJson hexact
    exact List.mem_append_right _ (List.mem_flatMap.mpr ⟨o, ho, by simp [hb]⟩)
  have hstatus : ∀ n, t.responseStatus = some n →
      Value.optional Value.word16 (.ofNat n.toNat) = .ok (some n) := fun n _ =>
    Value.optional_word16_ofNat n
  have hknown : ∀ reader ∈ resourceReaders, ∀ v, members.lookup reader.name = some v →
      ∀ d, ∃ d', reader.read v d = .ok d' := by
    intro reader hreader v hv
    simp only [resourceReaders, List.mem_cons, List.not_mem_nil, or_false] at hreader
    obtain rfl | rfl | rfl | rfl | rfl | rfl | rfl := hreader
    · cases h.fetchStart.symm.trans hv
      exact MemberReader.exists_read_of_slot hfetch
    · cases h.requestStart.symm.trans hv
      exact MemberReader.exists_read_of_slot hrequest
    · obtain ⟨a, ha⟩ := h.connectStart.exists_read (hoption (by simp)) hv
      exact MemberReader.exists_read_of_slot ha
    · obtain ⟨a, ha⟩ := h.connectEnd.exists_read (hoption (by simp)) hv
      exact MemberReader.exists_read_of_slot ha
    · obtain ⟨a, ha⟩ := h.responseStart.exists_read (hoption (by simp)) hv
      exact MemberReader.exists_read_of_slot ha
    · cases h.responseEnd.symm.trans hv
      exact MemberReader.exists_read_of_slot hend
    · obtain ⟨a, ha⟩ := h.responseStatus.exists_read hstatus hv
      exact MemberReader.exists_read_of_slot ha
  have htakes : ∀ m ∈ members, MemberReader.Takes resourceReaders leave m.1 m.2 :=
    MemberReader.takes_of_known hnodup hknown fun _ _ _ d => ⟨d, rfl⟩
  have hread : readAside resourceReaders {} members = .ok (resourceDraftOf members) :=
    resourceDrafts.readAll_eq hnodup htakes
  rw [resourceOfAside, hread]
  simp [ResourceDraft.toTiming, resourceDraftOf, said_of_lookup h.fetchStart hfetch,
    said_of_lookup h.requestStart hrequest, said_of_lookup h.responseEnd hend,
    h.connectStart.said_join (hoption (by simp)), h.connectEnd.said_join (hoption (by simp)),
    h.responseStart.said_join (hoption (by simp)), h.responseStatus.said_join hstatus,
    MemberReader.require, bind, Except.bind, pure, Except.pure]

/-- Members that say what details say, among others. -/
def DescribesDetails (members : Named) : Details → Prop
  | .mark | .measure | .longTask => True
  | .event t => DescribesEvent t members
  | .resource t => DescribesResource t members

/-- The floating-point numbers of details. -/
def detailsFloats : Details → List Float
  | .mark | .measure | .longTask => []
  | .event t => [t.processingStart.millis, t.processingEnd.millis]
  | .resource t => resourceFloats t

theorem DescribesDetails.filter {members : Named} {d : Details} (h : DescribesDetails members d)
    {p : String → Bool} (hp : ∀ name, isHeader name = false → name ≠ "entryType" → p name = true) :
    DescribesDetails (members.filter fun m => p m.1) d := by
  have hlookup {name : String} (hheader : isHeader name = false) (htype : name ≠ "entryType") :
      (members.filter fun m => p m.1).lookup name = members.lookup name :=
    lookup_filter p (hp name hheader htype)
  have hgives {α : Type} {name : String} {f : α → Value} {o : Option α}
      (hname : isHeader name = false) (htype : name ≠ "entryType") (hg : Gives members name f o) :
      Gives (members.filter fun m => p m.1) name f o := by
    unfold Gives
    rw [hlookup hname htype]
    exact hg
  cases d with
  | mark => trivial
  | measure => trivial
  | longTask => trivial
  | event t =>
    exact ⟨(hlookup rfl (by decide)).trans h.processingStart,
      (hlookup rfl (by decide)).trans h.processingEnd,
      (hlookup rfl (by decide)).trans h.interactionId⟩
  | resource t =>
    exact ⟨(hlookup rfl (by decide)).trans h.fetchStart, (hlookup rfl (by decide)).trans h.requestStart,
      hgives rfl (by decide) h.connectStart, hgives rfl (by decide) h.connectEnd,
      hgives rfl (by decide) h.responseStart, (hlookup rfl (by decide)).trans h.responseEnd,
      hgives rfl (by decide) h.responseStatus⟩

theorem detailsOfAside_eq {members : Named} {d : Details} (h : DescribesDetails members d)
    (hnodup : (members.map Prod.fst).Nodup)
    (htype : members.lookup "entryType" = some d.entryType.toJson)
    (hexact : Numeral.AllExact (detailsFloats d)) : detailsOfAside members = .ok d := by
  have honce := List.nodup_iff_count.mp hnodup "entryType"
  have hsplit := splitType_none honce htype (typeOfAside_toJson d.entryType)
  have hrest := h.filter (p := (· != "entryType")) fun name _ hne => by simpa using hne
  have hnodup := nodup_filter (fun m => m.1 != "entryType") hnodup
  rw [detailsOfAside, hsplit]
  cases d with
  | mark => rfl
  | measure => rfl
  | longTask => rfl
  | event t =>
    show (eventOfAside _ >>= fun t => .ok (Details.event t)) = _
    rw [DescribesEvent.eventOfAside_eq hrest hnodup hexact]
    rfl
  | resource t =>
    show (resourceOfAside _ >>= fun t => .ok (Details.resource t)) = _
    rw [DescribesResource.resourceOfAside_eq hrest hnodup hexact]
    rfl

/-! ### Members that describe an entry -/

/-- The floating-point numbers of an entry. -/
def floats (e : Entry) : List Float := e.start.millis :: e.duration.millis :: detailsFloats e.details

/-- Members that say what an entry says, in any order, and others that can be put aside. -/
structure Describes (e : Entry) (members : Named) : Prop where
  nodup : (members.map Prod.fst).Nodup
  held : ∀ m ∈ members, m.2.hold asideDepth = .ok ()
  name : members.lookup "name" = some (.ofString e.name)
  start : members.lookup "startTime" = some (timeToJson e.start)
  duration : members.lookup "duration" = some (.ofFloat e.duration.millis)
  entryType : members.lookup "entryType" = some e.entryType.toJson
  details : DescribesDetails members e.details

theorem Describes.ofJson_eq {e : Entry} {members : Named} (h : e.Describes members)
    (hexact : Numeral.AllExact e.floats) : ofJson (.ofMembers members) = .ok (e.withSequence 0) := by
  have hname := Value.string_ofString e.name
  have hstart := timeOfJson_timeToJson hexact (t := e.start) (by simp [floats])
  have hduration : durationOfJson (.ofFloat e.duration.millis) = .ok e.duration := by
    have hx := hexact e.duration.millis (by simp [floats])
    rw [durationOfJson, Value.float_ofFloat hx.1 hx.2]
    rfl
  have hknown : ∀ reader ∈ headerReaders, ∀ v, members.lookup reader.name = some v →
      ∀ d, ∃ d', reader.read v d = .ok d' := by
    intro reader hreader v hv
    simp only [headerReaders, List.mem_cons, List.not_mem_nil, or_false] at hreader
    obtain rfl | rfl | rfl := hreader
    · cases h.name.symm.trans hv
      exact MemberReader.exists_read_of_slot hname
    · cases h.start.symm.trans hv
      exact MemberReader.exists_read_of_slot hstart
    · cases h.duration.symm.trans hv
      exact MemberReader.exists_read_of_slot hduration
  have hforeign : ∀ m ∈ members, m.1 ∉ headerReaders.map (·.name) →
      ∀ d, ∃ d', putAside m.1 m.2 d = .ok d' := by
    intro m hm _ d
    refine ⟨{ d with aside := d.aside ++ [(m.1, m.2)] }, ?_⟩
    rw [putAside, h.held m hm]
    rfl
  have htakes := MemberReader.takes_of_known h.nodup hknown hforeign
  have hdetails : detailsOfAside (members.filter fun m => !isHeader m.1) = .ok e.details := by
    apply detailsOfAside_eq
    · exact h.details.filter (p := (!isHeader ·)) fun name hheader _ => by simp [hheader]
    · exact nodup_filter _ h.nodup
    · exact (lookup_filter (!isHeader ·) rfl).trans h.entryType
    · intro x hx
      exact hexact x (List.mem_cons_of_mem _ (List.mem_cons_of_mem _ hx))
  rw [ofJson_ofMembers h.nodup htakes]
  simp [Draft.toEntry, draftOf, said_of_lookup h.name hname, said_of_lookup h.start hstart,
    said_of_lookup h.duration hduration, hdetails, MemberReader.require, bind, Except.bind, pure,
    Except.pure, withSequence]

/-! ### An entry's own text -/

/-- What holds of each kind of value holds of all that an entry writes. -/
theorem forall_members {P : Value → Prop} {e : Entry} (hnull : P .null)
    (hstring : ∀ s, P (.ofString s)) (hnat : ∀ n ≤ Numeral.maxSignificand, P (.ofNat n))
    (hfloat : ∀ x ∈ e.floats, P (.ofFloat x)) : ∀ m ∈ e.members, P m.2 := by
  have htime {t : TimeStamp} (ht : t.millis ∈ detailsFloats e.details) : P (timeToJson t) :=
    hfloat _ (List.mem_cons_of_mem _ (List.mem_cons_of_mem _ ht))
  have hoption {α : Type} {f : α → Value} {o : Option α} (ho : ∀ a, o = some a → P (f a)) :
      P (Value.ofOption f o) := by
    cases o with
    | none => exact hnull
    | some a => exact ho a rfl
  intro m hm
  simp only [members, List.mem_append, List.mem_cons, List.not_mem_nil, or_false] at hm
  obtain (rfl | rfl | rfl | rfl) | hm := hm
  · exact hstring _
  · exact hfloat _ (by simp [floats])
  · exact hfloat _ (by simp [floats])
  · exact hstring _
  cases hd : e.details with
  | mark => simp [hd, detailsToJson] at hm
  | measure => simp [hd, detailsToJson] at hm
  | longTask => simp [hd, detailsToJson] at hm
  | event t =>
    simp only [hd, detailsToJson, List.mem_cons, List.not_mem_nil, or_false] at hm
    obtain rfl | rfl | rfl := hm
    · exact htime (by simp [hd, detailsFloats])
    · exact htime (by simp [hd, detailsFloats])
    · exact hnat _ (Nat.le_trans (Nat.le_of_lt t.interactionId.toNat_lt) (by decide))
  | resource t =>
    simp only [hd, detailsToJson, List.mem_cons, List.not_mem_nil, or_false] at hm
    obtain rfl | rfl | rfl | rfl | rfl | rfl | rfl := hm
    · exact htime (by simp [hd, detailsFloats, resourceFloats])
    · exact htime (by simp [hd, detailsFloats, resourceFloats])
    · exact hoption fun a ha => htime (by simp [hd, detailsFloats, resourceFloats, ha])
    · exact hoption fun a ha => htime (by simp [hd, detailsFloats, resourceFloats, ha])
    · exact hoption fun a ha => htime (by simp [hd, detailsFloats, resourceFloats, ha])
    · exact htime (by simp [hd, detailsFloats, resourceFloats])
    · exact hoption fun n _ => hnat _ (Nat.le_trans (Nat.le_of_lt n.toNat_lt) (by decide))

theorem isProper_members (e : Entry) : ∀ m ∈ e.members, m.2.IsProper :=
  forall_members trivial Value.isProper_ofString (fun n _ => Value.isProper_ofNat n)
    fun x _ => Value.isProper_ofFloat x

theorem isProper_toJson (e : Entry) : e.toJson.IsProper := Value.isProper_ofMembers (isProper_members e)

theorem hold_members {e : Entry} (hexact : Numeral.AllExact e.floats) :
    ∀ m ∈ e.members, m.2.hold asideDepth = .ok () :=
  forall_members (P := fun v => v.hold asideDepth = .ok ()) rfl (fun s => Value.hold_ofString s _)
    (fun _ hn => Value.hold_ofNat hn _) fun x hx => Value.hold_ofFloat (fun _ => (hexact x hx).2) _

theorem describes_members {e : Entry} (hexact : Numeral.AllExact e.floats) : e.Describes e.members where
  nodup := by
    cases hd : e.details <;> simp [members, hd, detailsToJson]
  held := hold_members hexact
  name := by simp [members]
  start := by simp [members, List.lookup_cons]
  duration := by simp [members, List.lookup_cons]
  entryType := by simp [members, List.lookup_cons]
  details := by
    cases hd : e.details with
    | mark => trivial
    | measure => trivial
    | longTask => trivial
    | event t => constructor <;> simp [members, hd, detailsToJson, List.lookup_cons]
    | resource t =>
      refine ⟨?_, ?_, .inl ?_, .inl ?_, .inl ?_, ?_, .inl ?_⟩
      all_goals simp [members, hd, detailsToJson, List.lookup_cons]

end PerfTimeline.Entry
