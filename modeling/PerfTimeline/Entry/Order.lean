import PerfTimeline.Entry.Basic

/-!
# The order of entries

Entries are ordered by start, and entries that start together by sequence. Sorting is stable, so entries
that were never stored keep their order when they start together.
-/

namespace PerfTimeline

namespace Entry

/-- `a` may stand before `b`: it starts earlier, or at the same time with no greater sequence. -/
def precedes (a b : Entry) : Bool :=
  a.start.key < b.start.key || (a.start.key == b.start.key && a.sequence ≤ b.sequence)

/-- The entries in order; those that agree in start and sequence keep their places. -/
def sort (es : List Entry) : List Entry := es.mergeSort precedes

theorem sort_perm (es : List Entry) : (sort es).Perm es := List.mergeSort_perm es precedes

end Entry

end PerfTimeline
