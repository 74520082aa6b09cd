import PerfTimeline.Proofs.Json.Overriding
import PerfTimeline.Wire.Request
import PerfTimeline.Wire.Settings

/-!
# Settings and requests, written and read

The capacities, the queue limit and an observe request are read alike: each member that is mentioned replaces
a default. They differ in what is left to a member that is not: a capacity keeps its standard value, while
`null` makes it unbounded, and for a request a missing member and `null` are the same.
-/

namespace PerfTimeline

open PerfTimeline.Json

/-! ### Capacities -/

namespace Capacities

/-- What members say about the capacity of each type. -/
def Mentions (members : Named) (given : PerType (Option Capacity)) : Prop :=
  ∀ t, Json.Mentions (Value.Optionally Value.SpellsSize) (key t) members (given.get t)

/-- The standard capacities, with those given in their place. -/
def overriding (given : PerType (Option Capacity)) : Capacities :=
  ⟨given.mark.getD standard.mark, given.measure.getD standard.measure, given.event.getD standard.event,
    given.longTask.getD standard.longTask, given.resource.getD standard.resource⟩

/-- The draft of capacities that members leave behind. -/
def draftOf (members : Named) : PerType (Option Capacity) :=
  let slot (t : EntryType) := said (Value.optional Value.size) (key t) members
  ⟨slot .mark, slot .measure, slot .event, slot .longTask, slot .resource⟩

theorem get_draftOf (members : Named) (t : EntryType) :
    (draftOf members).get t = said (Value.optional Value.size) (key t) members := by
  cases t <;> rfl

theorem key_injective {t u : EntryType} (h : key t = key u) : t = u := by
  revert h
  cases t <;> cases u <;> decide

theorem drafts : MemberReader.Drafts (EntryType.all.map reader) MemberReader.ignore draftOf where
  known := by
    intro r hr done v hnew
    obtain ⟨t, -, rfl⟩ := List.mem_map.mp hr
    unfold reader at hnew ⊢
    apply MemberReader.known_of_slot hnew (get_draftOf done t)
    intro a ha
    apply PerType.ext_get
    intro u
    by_cases hu : u = t
    · subst hu
      rw [PerType.get_set_self, get_draftOf, said_concat_self hnew ha]
    · have hkey : key u ≠ key t := fun h => hu (key_injective h)
      rw [PerType.get_set_of_ne _ _ hu, get_draftOf, get_draftOf, said_concat_of_ne hkey]
  foreign := by
    intro name hname done v d hd
    rw [MemberReader.eq_of_ignore hd]
    apply PerType.ext_get
    intro u
    have hkey : key u ≠ name := by
      rintro rfl
      exact hname (List.mem_map.mpr ⟨reader u, List.mem_map_of_mem u.mem_all, rfl⟩)
    rw [get_draftOf, get_draftOf, said_concat_of_ne hkey]

theorem lasting : MemberReader.Lasting (EntryType.all.map reader) := by
  intro r hr r' hr' v d d' hread hgiven
  obtain ⟨t, -, rfl⟩ := List.mem_map.mp hr
  obtain ⟨u, -, rfl⟩ := List.mem_map.mp hr'
  obtain ⟨a, -, hset⟩ := bind_eq_ok_iff.mp hread
  rw [← Except.ok.inj hset]
  show ((d.set u (some a)).get t).isSome = true
  by_cases hu : t = u
  · subst hu
    rw [PerType.get_set_self]
    rfl
  · rw [PerType.get_set_of_ne _ _ hu]
    exact hgiven.resolve_left fun h => hu (key_injective h).symm

theorem Mentions.fills {members : Named} {given : PerType (Option Capacity)} (h : Mentions members given) :
    MemberReader.Fills (EntryType.all.map reader) draftOf members given := by
  have hread (v : Value) (o : Capacity) := Reads.size.optional (v := v) (o := o)
  constructor
  · intro r hr
    obtain ⟨t, -, rfl⟩ := List.mem_map.mp hr
    exact (h t).once
  · intro r hr v hv
    obtain ⟨t, -, rfl⟩ := List.mem_map.mp hr
    obtain ⟨a, ha⟩ := (h t).exists_read hread hv
    unfold reader
    exact MemberReader.exists_read_of_slot ha
  · apply PerType.ext_get
    intro t
    rw [get_draftOf, (h t).said hread]

theorem overrides : Overrides ofJson (EntryType.all.map key) Mentions overriding :=
  drafts.overrides lasting (fun _ _ h => h.fills) "struct ReporterConfig" overriding

end Capacities

/-! ### The queue limit -/

namespace QueueLimit

/-- What members say about the queue limit. -/
def Mentions (members : Named) (given : Option Nat) : Prop :=
  Json.Mentions Value.SpellsSize "maxBufferSize" members given

/-- The standard limit, or the one given in its place. -/
def overriding (given : Option Nat) : Nat := given.getD Observer.standardLimit

/-- The draft of a queue limit that members leave behind. -/
def draftOf (members : Named) : Option Nat := said Value.size "maxBufferSize" members

theorem drafts : MemberReader.Drafts [reader] MemberReader.ignore draftOf where
  known := by
    intro r hr done v hnew
    obtain rfl := List.mem_singleton.mp hr
    unfold reader at hnew ⊢
    apply MemberReader.known_of_slot hnew rfl
    intro a ha
    exact (said_concat_self hnew ha).symm
  foreign := by
    intro name hname done v d hd
    have hne : "maxBufferSize" ≠ name := fun h => hname (List.mem_singleton.mpr h.symm)
    rw [MemberReader.eq_of_ignore hd, draftOf, draftOf, said_concat_of_ne hne]

theorem lasting : MemberReader.Lasting [reader] := by
  intro r hr r' hr' v d d' hread _
  obtain rfl := List.mem_singleton.mp hr
  obtain rfl := List.mem_singleton.mp hr'
  obtain ⟨a, -, hset⟩ := bind_eq_ok_iff.mp hread
  rw [← Except.ok.inj hset]
  rfl

theorem Mentions.fills {members : Named} {given : Option Nat} (h : Mentions members given) :
    MemberReader.Fills [reader] draftOf members given := by
  constructor
  · intro r hr
    obtain rfl := List.mem_singleton.mp hr
    exact h.once
  · intro r hr v hv
    obtain rfl := List.mem_singleton.mp hr
    obtain ⟨a, ha⟩ := h.exists_read Reads.size.spelled hv
    exact fun d => ⟨some a, by simp only [reader, ha]; rfl⟩
  · exact h.said Reads.size.spelled

theorem overrides : Overrides ofJson ["maxBufferSize"] Mentions overriding :=
  drafts.overrides lasting (fun _ _ h => h.fills) "struct ObserverConfig" overriding

end QueueLimit

/-! ### Requests -/

namespace ObserveRequest

/-- What members say about each part of a request, where `null` says that there is none. -/
structure Mentions (members : Named) (given : Draft) : Prop where
  entryTypes : Json.Mentions
    (Value.Optionally (Value.SpellsList fun v (t : EntryType) => v.SpellsName t.name)) "entryTypes"
    members given.entryTypes
  entryType : Json.Mentions (Value.Optionally fun v (t : EntryType) => v.SpellsName t.name) "type"
    members given.entryType
  buffered : Json.Mentions (Value.Optionally Value.SpellsBool) "buffered" members given.buffered
  threshold : Json.Mentions (Value.Optionally fun v (d : Duration) => v.SpellsReal d.millis)
    "durationThreshold" members given.threshold

/-- The request for nothing, with the parts given in their place. -/
def overriding (given : Draft) : ObserveRequest where
  entryTypes := given.entryTypes.getD none
  entryType := given.entryType.getD none
  buffered := given.buffered.getD none
  threshold := given.threshold.getD none

/-- Read a threshold, which may be `null`. -/
def thresholdOfJson (v : Value) : Read (Option Duration) := (Value.optional Value.float v).map (·.map .mk)

/-- The draft of a request that members leave behind. -/
def draftOf (members : Named) : Draft where
  entryTypes := said (Value.optional (Value.listOf EntryType.ofJson)) "entryTypes" members
  entryType := said (Value.optional EntryType.ofJson) "type" members
  buffered := said (Value.optional Value.boolean) "buffered" members
  threshold := said thresholdOfJson "durationThreshold" members

/-- All four readers put what they read into its place as it is. -/
theorem readers_eq : readers =
    [⟨"entryTypes", false, fun d => d.entryTypes.isSome, fun v d => do
        return { d with entryTypes := some (← Value.optional (Value.listOf EntryType.ofJson) v) }⟩,
      ⟨"type", false, fun d => d.entryType.isSome, fun v d => do
        return { d with entryType := some (← Value.optional EntryType.ofJson v) }⟩,
      ⟨"buffered", false, fun d => d.buffered.isSome, fun v d => do
        return { d with buffered := some (← Value.optional Value.boolean v) }⟩,
      ⟨"durationThreshold", false, fun d => d.threshold.isSome, fun v d => do
        return { d with threshold := some (← thresholdOfJson v) }⟩] := by
  simp only [readers, List.cons.injEq, MemberReader.mk.injEq, true_and, and_true]
  funext v d
  unfold thresholdOfJson
  cases Value.optional Value.float v <;> rfl

theorem drafts : MemberReader.Drafts readers MemberReader.ignore draftOf where
  known := by
    intro reader hreader done v hnew
    simp only [readers_eq, List.mem_cons, List.not_mem_nil, or_false] at hreader
    rcases hreader with rfl | rfl | rfl | rfl
    all_goals
      apply MemberReader.known_of_slot hnew rfl
      intro a ha
      simp [draftOf, said_concat_self hnew ha, said_concat_of_ne]
  foreign := by
    intro name hname done v d hd
    simp [readers] at hname
    rw [MemberReader.eq_of_ignore hd]
    simp [draftOf, said_concat_of_ne, Ne.symm, hname]

theorem lasting : MemberReader.Lasting readers := by
  intro r hr r' hr' v d d' hread hgiven
  simp only [readers_eq, List.mem_cons, List.not_mem_nil, or_false] at hr hr'
  rcases hr' with rfl | rfl | rfl | rfl
  all_goals
    obtain ⟨a, -, hset⟩ := bind_eq_ok_iff.mp hread
    rw [← Except.ok.inj hset]
    rcases hr with rfl | rfl | rfl | rfl
    -- the part that was read is given now, and any other is as it was
    all_goals first | rfl | simpa using hgiven

theorem Mentions.fills {members : Named} {given : Draft} (h : Mentions members given) :
    MemberReader.Fills readers draftOf members given := by
  have hname : Reads EntryType.ofJson fun v (t : EntryType) => v.SpellsName t.name :=
    Reads.oneOf EntryType.ofName?_name _
  have htypes (v : Value) (o : Option (List EntryType)) := hname.listOf.optional (v := v) (o := o)
  have htype (v : Value) (o : Option EntryType) := hname.optional (v := v) (o := o)
  have hbuffered (v : Value) (o : Option Bool) := Reads.boolean.optional (v := v) (o := o)
  have hthreshold (v : Value) (o : Option Duration)
      (hv : Value.Optionally (fun v (d : Duration) => v.SpellsReal d.millis) v o) :
      thresholdOfJson v = .ok o := by
    have hfloat : Value.Optionally Value.SpellsReal v (o.map (·.millis)) := by
      obtain ⟨rfl, rfl⟩ | ⟨d, rfl, hv⟩ := hv
      · exact .inl ⟨rfl, rfl⟩
      · exact .inr ⟨d.millis, rfl, hv⟩
    rw [thresholdOfJson, Reads.float.optional hfloat]
    cases o <;> rfl
  constructor
  · intro r hr
    simp only [readers_eq, List.mem_cons, List.not_mem_nil, or_false] at hr
    rcases hr with rfl | rfl | rfl | rfl
    · exact h.entryTypes.once
    · exact h.entryType.once
    · exact h.buffered.once
    · exact h.threshold.once
  · intro r hr v hv
    simp only [readers_eq, List.mem_cons, List.not_mem_nil, or_false] at hr
    rcases hr with rfl | rfl | rfl | rfl
    · obtain ⟨a, ha⟩ := h.entryTypes.exists_read htypes hv
      exact MemberReader.exists_read_of_slot ha
    · obtain ⟨a, ha⟩ := h.entryType.exists_read htype hv
      exact MemberReader.exists_read_of_slot ha
    · obtain ⟨a, ha⟩ := h.buffered.exists_read hbuffered hv
      exact MemberReader.exists_read_of_slot ha
    · obtain ⟨a, ha⟩ := h.threshold.exists_read hthreshold hv
      exact MemberReader.exists_read_of_slot ha
  · rw [draftOf, h.entryTypes.said htypes, h.entryType.said htype, h.buffered.said hbuffered,
      h.threshold.said hthreshold]

theorem overrides : Overrides ofJson ["entryTypes", "type", "buffered", "durationThreshold"] Mentions
    overriding := by
  have hjoin {α : Type} (o : Option (Option α)) : o.getD none = o.join := by cases o <;> rfl
  have hover : overriding = fun d =>
      ⟨d.entryTypes.join, d.entryType.join, d.buffered.join, d.threshold.join⟩ := by
    funext d
    simp only [overriding, hjoin]
  have hread := drafts.overrides lasting (fun _ _ => Mentions.fills) "struct ObserveRequest" overriding
  rw [hover] at hread ⊢
  exact hread

end ObserveRequest

/-! ### Round trips -/

theorem Capacities.ofJson_toJson {capacities : Capacities}
    (h : ∀ t n, capacities.get t = some n → n < UInt64.size) :
    (Document.ofString capacities.toJson.render).read ofJson = .ok capacities := by
  have hproper (t : EntryType) : (Value.ofOption Value.ofNat (capacities.get t)).IsProper := by
    cases capacities.get t with
    | none => trivial
    | some n => exact Value.isProper_ofNat n
  have hmentions : Mentions (EntryType.all.map fun t => (key t, Value.ofOption Value.ofNat (capacities.get t)))
      (capacities.map some) := by
    intro t
    rw [PerType.get_map]
    refine Json.Mentions.of_mem ?_ (List.mem_map_of_mem t.mem_all)
      (Value.optionally_ofOption fun n hn => Value.spellsSize_ofNat (h t n hn))
    show (EntryType.all.map key).Nodup
    decide
  refine overrides.ofMembers ?_ ?_ hmentions
  · intro m hm
    obtain ⟨t, -, rfl⟩ := List.mem_map.mp hm
    exact hproper t
  · intro m hm
    obtain ⟨t, ht, rfl⟩ := List.mem_map.mp hm
    exact List.mem_map_of_mem ht

theorem QueueLimit.ofJson_toJson {limit : Nat} (h : limit < UInt64.size) :
    (Document.ofString (toJson limit).render).read ofJson = .ok limit := by
  have hmentions : Mentions [("maxBufferSize", .ofNat limit)] (some limit) :=
    Json.Mentions.of_mem (by simp) (List.mem_singleton_self _) (Value.spellsSize_ofNat h)
  refine overrides.ofMembers ?_ ?_ hmentions
  · intro m hm
    obtain rfl := List.mem_singleton.mp hm
    exact Value.isProper_ofNat limit
  · intro m hm
    obtain rfl := List.mem_singleton.mp hm
    exact List.mem_singleton_self _

theorem ObserveRequest.ofText_toJson {request : ObserveRequest}
    (hfinite : ∀ d, request.threshold = some d → isFinite d.millis = true)
    (hback : ∀ d, request.threshold = some d → Numeral.ReadsBack d.millis) :
    ofText request.toJson.render = .ok request := by
  let members : Named :=
    [("entryTypes", Value.ofOption (fun ts => .ofList (ts.map EntryType.toJson)) request.entryTypes),
      ("type", Value.ofOption EntryType.toJson request.entryType),
      ("buffered", Value.ofOption Value.bool request.buffered),
      ("durationThreshold", Value.ofOption (fun d => .ofFloat d.millis) request.threshold)]
  have hnodup : (members.map Prod.fst).Nodup := by simp [members]
  have hmentions : Mentions members
      ⟨some request.entryTypes, some request.entryType, some request.buffered, some request.threshold⟩ := by
    constructor
    · refine Json.Mentions.of_mem hnodup (.head _) (Value.optionally_ofOption fun ts _ => ?_)
      exact Value.spellsList_ofList (fun t => Value.spellsName_ofString t.name) ts
    · refine Json.Mentions.of_mem hnodup (.tail _ (.head _)) (Value.optionally_ofOption fun t _ => ?_)
      exact Value.spellsName_ofString t.name
    · refine Json.Mentions.of_mem hnodup (.tail _ (.tail _ (.head _))) ?_
      exact Value.optionally_ofOption fun b _ => rfl
    · refine Json.Mentions.of_mem hnodup (.tail _ (.tail _ (.tail _ (.head _)))) ?_
      exact Value.optionally_ofOption fun d hd => Value.spellsReal_ofFloat (hfinite d hd) (hback d hd)
  have hoption {α : Type} {f : α → Value} {o : Option α} (h : ∀ a, (f a).IsProper) :
      (Value.ofOption f o).IsProper := by
    cases o with
    | none => trivial
    | some a => exact h a
  refine overrides.ofMembers ?_ ?_ hmentions
  · intro m hm
    simp only [members, List.mem_cons, List.not_mem_nil, or_false] at hm
    obtain rfl | rfl | rfl | rfl := hm
    · refine hoption fun ts => Value.isProper_ofList fun v hv => ?_
      obtain ⟨t, -, rfl⟩ := List.mem_map.mp hv
      exact Value.isProper_ofString t.name
    · exact hoption fun t => Value.isProper_ofString t.name
    · exact hoption fun b => trivial
    · exact hoption fun d => Value.isProper_ofFloat d.millis
  · intro m hm
    have hname : m.1 ∈ members.map Prod.fst := List.mem_map_of_mem hm
    exact hname

/-- Capacities, queue limits and requests are read as they were written. In any object with some of their
members, each of them once, those replace the defaults, and in no object may one of them stand twice. -/
theorem settings_override {capacities : Capacities}
    (hcapacities : ∀ t n, capacities.get t = some n → n < UInt64.size) {limit : Nat}
    (hlimit : limit < UInt64.size) {request : ObserveRequest}
    (hfinite : ∀ d, request.threshold = some d → isFinite d.millis = true)
    (hback : ∀ d, request.threshold = some d → Numeral.ReadsBack d.millis) :
    (Document.ofString capacities.toJson.render).read Capacities.ofJson = .ok capacities ∧
    (Document.ofString (QueueLimit.toJson limit).render).read QueueLimit.ofJson = .ok limit ∧
    ObserveRequest.ofText request.toJson.render = .ok request ∧
    Overrides Capacities.ofJson (EntryType.all.map Capacities.key) Capacities.Mentions
      Capacities.overriding ∧
    Overrides QueueLimit.ofJson ["maxBufferSize"] QueueLimit.Mentions QueueLimit.overriding ∧
    Overrides ObserveRequest.ofJson ["entryTypes", "type", "buffered", "durationThreshold"]
      ObserveRequest.Mentions ObserveRequest.overriding :=
  ⟨Capacities.ofJson_toJson hcapacities, QueueLimit.ofJson_toJson hlimit,
    ObserveRequest.ofText_toJson hfinite hback, Capacities.overrides, QueueLimit.overrides,
    ObserveRequest.overrides⟩

/-- An event capacity of `null` and a resource capacity of seven, between two members of another kind; and a
limit that is given twice. -/
theorem settings_override_two_capacities :
    let capacities : Capacities := ⟨none, some 0, some 18446744073709551615, none, some 7⟩
    let request : ObserveRequest := ⟨some [.mark, .longTask], none, some true, some ⟨0.1⟩⟩
    let other : String × Value := ("other", .ofList [.ofMembers [("a", .null)], .bool true])
    let members : Named := [other, ("resourceCapacity", .ofNat 7), ("eventCapacity", .null), other]
    let given : PerType (Option Capacity) := ⟨none, none, some none, none, some (some 7)⟩
    let limits : Named := [("maxBufferSize", .ofNat 1), ("maxBufferSize", .ofNat 1)]
    (∀ t n, capacities.get t = some n → n < UInt64.size) ∧
    (∀ d, request.threshold = some d → isFinite d.millis = true) ∧
    (∀ d, request.threshold = some d → Numeral.ReadsBack d.millis) ∧
    (Document.ofString capacities.toJson.render).read Capacities.ofJson = .ok capacities ∧
    ObserveRequest.ofText request.toJson.render = .ok request ∧
    Capacities.Mentions members given ∧
    (Document.ofString (Value.ofMembers members).render).read Capacities.ofJson =
      .ok ⟨none, none, none, some 200, some 7⟩ ∧
    ∃ fault, (Document.ofString (Value.ofMembers limits).render).read QueueLimit.ofJson = .error fault := by
  intro capacities request other members given limits
  have hcapacities : ∀ t n, capacities.get t = some n → n < UInt64.size := by
    intro t n
    cases t <;> simp [capacities, PerType.get, UInt64.size] <;> omega
  have hfinite : ∀ d, request.threshold = some d → isFinite d.millis = true := by
    intro d hd
    obtain rfl := Option.some.inj hd
    decide +kernel
  have hback : ∀ d, request.threshold = some d → Numeral.ReadsBack d.millis := by
    intro d hd
    obtain rfl := Option.some.inj hd
    decide +kernel
  have hlimit : 0 < UInt64.size := by decide
  obtain ⟨hread, -, hrequest, hoverrides, hlimits, -⟩ :=
    settings_override hcapacities hlimit hfinite hback
  have hmentions : Capacities.Mentions members given := by
    have hnull : Value.Optionally Value.SpellsSize .null none := .inl ⟨rfl, rfl⟩
    have hseven : Value.Optionally Value.SpellsSize (.ofNat 7) (some 7) :=
      .inr ⟨7, rfl, Value.spellsSize_ofNat (by decide)⟩
    intro t
    cases t with
    | event => exact ⟨by decide, .null, by simp [members, Capacities.key], hnull⟩
    | resource => exact ⟨by decide, .ofNat 7, by simp [members, Capacities.key], hseven⟩
    | _ => simp [Json.Mentions, given, members, other, PerType.get, Capacities.key]
  have hother : other.2.IsProper := ⟨⟨RawText.isProper_ofString "a", trivial, trivial⟩, trivial, trivial⟩
  have hproper : ∀ m ∈ members, m.2.IsProper := by
    intro m hm
    simp only [members, List.mem_cons, List.not_mem_nil, or_false] at hm
    obtain rfl | rfl | rfl | rfl := hm
    · exact hother
    · exact Value.isProper_ofNat 7
    · trivial
    · exact hother
  have hvalid : ∀ m ∈ members, m.1 ∉ EntryType.all.map Capacities.key → m.2.IsValid := by
    have hvalid : other.2.IsValid := ⟨⟨rfl, trivial, trivial⟩, trivial, trivial⟩
    intro m hm hname
    simp only [members, List.mem_cons, List.not_mem_nil, or_false] at hm
    obtain rfl | rfl | rfl | rfl := hm
    · exact hvalid
    · exact absurd (by decide) hname
    · exact absurd (by decide) hname
    · exact hvalid
  refine ⟨hcapacities, hfinite, hback, hread, hrequest, hmentions, ?_, ?_⟩
  · exact hoverrides.decodes _ _ members given (Document.ofString_render (Value.isProper_ofMembers hproper))
      (spells_ofString members) hmentions hvalid
  · refine hlimits.refuses _ _ .closed false "maxBufferSize"
      (Document.ofString_render (Value.isProper_ofMembers fun m hm => ?_)) (List.mem_singleton_self _) ?_
    · simp only [limits, List.mem_cons, List.not_mem_nil, or_false, or_self] at hm
      rw [hm]
      exact Value.isProper_ofNat 1
    · rw [Repeats, (spells_ofString limits).names]
      decide

end PerfTimeline
