import PerfTimeline.Entry.Basic

/-!
# Flat records

A record is an entry flattened into plain numbers for readers that know no entry details. The members of
one type are present only where that type carries them. A record may also be written by hand: nothing ties
its members to its type.
-/

namespace PerfTimeline

/-- An entry as plain numbers. -/
structure Record where
  name : String
  entryType : EntryType
  startTime : Float
  duration : Float
  processingStart : Option Float := none
  processingEnd : Option Float := none
  interactionId : Option UInt32 := none
  fetchStart : Option Float := none
  requestStart : Option Float := none
  connectStart : Option Float := none
  connectEnd : Option Float := none
  responseStart : Option Float := none
  responseEnd : Option Float := none
  responseStatus : Option UInt16 := none
deriving DecidableEq

/-- The record of an entry; the sequence is left out. -/
def Record.ofEntry (e : Entry) : Record :=
  let header : Record := ⟨e.name, e.entryType, e.start.millis, e.duration.millis,
    none, none, none, none, none, none, none, none, none, none⟩
  match e.details with
  | .mark | .measure | .longTask => header
  | .event t =>
    { header with
      processingStart := some t.processingStart.millis
      processingEnd := some t.processingEnd.millis
      interactionId := some t.interactionId }
  | .resource t =>
    { header with
      fetchStart := some t.fetchStart.millis
      requestStart := some t.requestStart.millis
      connectStart := t.connectStart.map (·.millis)
      connectEnd := t.connectEnd.map (·.millis)
      responseStart := t.responseStart.map (·.millis)
      responseEnd := some t.responseEnd.millis
      responseStatus := t.responseStatus }

@[simp] theorem Record.name_ofEntry (e : Entry) : (Record.ofEntry e).name = e.name := by
  unfold Record.ofEntry; cases e.details <;> rfl

@[simp] theorem Record.entryType_ofEntry (e : Entry) : (Record.ofEntry e).entryType = e.entryType := by
  unfold Record.ofEntry; cases e.details <;> rfl

end PerfTimeline
