import PerfTimeline.Proofs.Wire.Entry
import PerfTimeline.Proofs.Wire.Record

/-!
# The two formats of an entry

An entry's own members describe its record, and the members of the record describe the entry. So each of the
two texts can be read either way.
-/

namespace PerfTimeline.Entry

open PerfTimeline.Json

theorem floats_ofEntry_subset (e : Entry) : (Record.ofEntry e).floats ⊆ e.floats := by
  intro x hx
  obtain ⟨name, start, duration, details, sequence⟩ := e
  cases details
  all_goals
    simp [Record.ofEntry, Record.floats, Record.optionalFloats, floats, detailsFloats,
      resourceFloats] at hx ⊢
    grind

theorem startTime_ofEntry (e : Entry) : (Record.ofEntry e).startTime = e.start.millis := by
  unfold Record.ofEntry
  cases e.details <;> rfl

theorem duration_ofEntry (e : Entry) : (Record.ofEntry e).duration = e.duration.millis := by
  unfold Record.ofEntry
  cases e.details <;> rfl

theorem describes_members_ofEntry {e : Entry} (hexact : Numeral.AllExact e.floats) :
    e.Describes (Record.ofEntry e).members where
  nodup := (Record.describes_members (Record.ofEntry e)).nodup
  held := Record.forall_members (P := fun v => v.hold asideDepth = .ok ())
    (fun s => Value.hold_ofString s _) (fun _ hn => Value.hold_ofNat hn _)
    fun x hx => Value.hold_ofFloat (fun _ => (hexact x (floats_ofEntry_subset e hx)).2) _
  name := by rw [(Record.describes_members _).name, Record.name_ofEntry]
  start := by rw [(Record.describes_members _).startTime, startTime_ofEntry]; rfl
  duration := by rw [(Record.describes_members _).duration, duration_ofEntry]
  entryType := by rw [(Record.describes_members _).entryType, Record.entryType_ofEntry]
  details := by
    cases hd : e.details with
    | mark => trivial
    | measure => trivial
    | longTask => trivial
    | event t =>
      constructor
      all_goals
        simp [Record.members, Record.ofEntry, hd, List.lookup_append, List.lookup_cons, timeToJson]
    | resource t =>
      have htime : timeToJson = fun t => Value.ofFloat t.millis := rfl
      refine ⟨?_, ?_, Gives.of_lookup_map ?_, Gives.of_lookup_map ?_, Gives.of_lookup_map ?_,
        ?_, Gives.of_lookup_map ?_⟩
      all_goals
        simp [Record.members, Record.ofEntry, hd, List.lookup_append, List.lookup_cons, htime,
          Function.comp_def]

theorem describes_ofEntry_members {e : Entry} (hexact : Numeral.AllExact e.floats) :
    (Record.ofEntry e).Describes e.members where
  nodup := (describes_members hexact).nodup
  known := by
    have hkeys : ∀ key ∈ e.members.map Prod.fst, key ∈ Record.readers.map (·.name) := by
      cases hd : e.details
      all_goals
        simp only [members, hd, detailsToJson, List.map_append, List.map_cons, List.map_nil]
        decide
    exact fun m hm => hkeys m.1 (List.mem_map_of_mem hm)
  name := by rw [(describes_members hexact).name, Record.name_ofEntry]
  entryType := by rw [(describes_members hexact).entryType, Record.entryType_ofEntry]
  startTime := by rw [(describes_members hexact).start, startTime_ofEntry]; rfl
  duration := by rw [(describes_members hexact).duration, duration_ofEntry]
  optional := by
    have htime : timeToJson = fun t => Value.ofFloat t.millis := rfl
    intro p hp
    simp only [Record.optionalFloats, List.mem_cons, List.not_mem_nil, or_false] at hp
    cases hd : e.details
    all_goals
      simp only [Record.ofEntry, hd] at hp
      rcases hp with rfl | rfl | rfl | rfl | rfl | rfl | rfl | rfl
    -- a number is absent because the type does not carry it, or it is written
    all_goals
      first
      | refine .inr ⟨rfl, ?_⟩
        simp [members, hd, detailsToJson, List.lookup_cons]
      | refine .inl ?_
        simp [members, hd, detailsToJson, List.lookup_cons, htime, Value.ofOption_map]
  interactionId := by
    cases hd : e.details with
    | event t => exact .inl (by simp [members, Record.ofEntry, hd, detailsToJson, List.lookup_cons])
    | _ => exact .inr (by simp [members, Record.ofEntry, hd, detailsToJson, List.lookup_cons])
  responseStatus := by
    cases hd : e.details with
    | resource t => exact .inl (by simp [members, Record.ofEntry, hd, detailsToJson, List.lookup_cons])
    | _ => exact .inr (by simp [members, Record.ofEntry, hd, detailsToJson, List.lookup_cons])

/-- The two formats of an entry can be exchanged: each of the two texts is read as the record of the entry
and as the entry, which then counts as never stored. -/
theorem texts_exchange (e : Entry) (hfinite : ∀ x ∈ e.floats, isFinite x = true)
    (hback : ∀ x ∈ e.floats, Numeral.ReadsBack x) :
    (Document.ofString e.toJson.render).read Record.ofJson = .ok (Record.ofEntry e) ∧
    (Document.ofString (Record.ofEntry e).toJson.render).read ofJson = .ok (e.withSequence 0) ∧
    (Document.ofString (Record.ofEntry e).toJson.render).read Record.ofJson = .ok (Record.ofEntry e) ∧
    (Document.ofString e.toJson.render).read ofJson = .ok (e.withSequence 0) := by
  have hexact : Numeral.AllExact e.floats := fun x hx => ⟨hfinite x hx, hback x hx⟩
  have hrecord : Numeral.AllExact (Record.ofEntry e).floats := fun x hx =>
    hexact x (floats_ofEntry_subset e hx)
  have hrecordBack : (Record.ofEntry e).ReadsBack := fun x hx _ => (hrecord x hx).2
  have htimed : (Record.ofEntry e).IsTimed :=
    ⟨(hrecord _ (by simp [Record.floats])).1, (hrecord _ (by simp [Record.floats])).1⟩
  have hdrop := Record.dropNonFinite_of_allExact hrecord
  rw [Document.read_render (isProper_toJson e), Document.read_render (isProper_toJson e),
    Document.read_render (Record.isProper_toJson _), Document.read_render (Record.isProper_toJson _)]
  refine ⟨?_, ?_, ?_, ?_⟩
  · have hread := (describes_ofEntry_members hexact).ofJson_eq hrecordBack htimed
    rwa [hdrop] at hread
  · exact (describes_members_ofEntry hexact).ofJson_eq hexact
  · have hread := (Record.describes_members _).ofJson_eq hrecordBack htimed
    rwa [hdrop] at hread
  · exact (describes_members hexact).ofJson_eq hexact

/-- A fetch that was partly timed, under a name with characters that are escaped. -/
theorem texts_exchange_resource :
    let e := resource "caf\u00e9\t\"\\" ⟨1.5⟩
      ⟨⟨1.5⟩, ⟨2.25⟩, some ⟨0.1⟩, none, some ⟨3e-7⟩, ⟨1234.5⟩, some 200⟩
    (∀ x ∈ e.floats, isFinite x = true) ∧ (∀ x ∈ e.floats, Numeral.ReadsBack x) ∧
    (Document.ofString e.toJson.render).read Record.ofJson =
      .ok { name := "caf\u00e9\t\"\\", entryType := .resource, startTime := 1.5, duration := 1233.0
            fetchStart := some 1.5, requestStart := some 2.25, connectStart := some 0.1
            responseStart := some 3e-7, responseEnd := some 1234.5, responseStatus := some 200 } ∧
    (Document.ofString (Record.ofEntry e).toJson.render).read ofJson = .ok e := by
  intro e
  have hfinite : ∀ x ∈ e.floats, isFinite x = true := by decide +kernel
  have hback : ∀ x ∈ e.floats, Numeral.ReadsBack x := by decide +kernel
  have h := texts_exchange e hfinite hback
  exact ⟨hfinite, hback, h.1.trans (congrArg Except.ok (by decide +kernel)), h.2.1⟩

end PerfTimeline.Entry
