import PerfTimeline.Retention.Buffer

/-!
# Buffers on one counter

A family of buffers that number their entries from one counter, so that sequences tell the order of storage
across all of them.
-/

namespace PerfTimeline

/-- Buffers that share a counter. -/
structure Family where
  /-- The number given out last. -/
  sequence : Nat
  buffers : List Buffer
deriving DecidableEq

namespace Family

/-- Store an entry in buffer `i` under the next number. Returns the entry as stored, or nothing where there
is no such buffer. -/
def append (f : Family) (i : Nat) (e : Entry) : Option (Family × Entry × List TraceEvent) :=
  f.buffers[i]?.map fun b =>
    let stored := e.withSequence (f.sequence + 1)
    let (b, events) := b.append stored
    (⟨f.sequence + 1, f.buffers.set i b⟩, stored, events)

/-- Change buffer `i`, if there is one. -/
def modify (f : Family) (i : Nat) (change : Buffer → Buffer) : Family :=
  { f with buffers := f.buffers.modify i change }

end Family

end PerfTimeline
