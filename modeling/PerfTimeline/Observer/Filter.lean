import PerfTimeline.Entry.Basic

/-!
# Filters

What an observer is subscribed to: nothing, one entry type (possibly only entries of at least a given
duration), or any of a set of types. A set is kept as its members in code order, each once.
-/

namespace PerfTimeline

/-- The options of a subscription to one entry type. -/
structure ObserveOptions where
  /-- Begin with the entries that are stored already. -/
  buffered : Bool := false
  /-- Leave out shorter entries; without a threshold even negative durations pass. -/
  threshold : Option Duration := none
deriving DecidableEq

/-- Whether an entry is long enough. -/
def ObserveOptions.admits (options : ObserveOptions) (e : Entry) : Bool :=
  match options.threshold with
  | none => true
  | some d => d ≤ e.duration

/-- A threshold lets those pass that last as long or longer. -/
theorem ObserveOptions.admits_iff {options : ObserveOptions} {e : Entry} :
    options.admits e = true ↔ ∀ d, options.threshold = some d → d ≤ e.duration := by
  unfold admits
  cases options.threshold <;> simp

/-- The subscription of an observer. -/
inductive Filter where
  | nothing
  | one (entryType : EntryType) (options : ObserveOptions)
  | many (types : List EntryType)
deriving DecidableEq

namespace Filter

/-- Whether an entry passes. -/
def admits (e : Entry) : Filter → Bool
  | nothing => false
  | one t options => e.entryType == t && options.admits e
  | many types => types.contains e.entryType

/-- Whether entries of this type can pass. -/
def covers (t : EntryType) : Filter → Bool
  | nothing => false
  | one u _ => u == t
  | many types => types.contains t

end Filter

end PerfTimeline
