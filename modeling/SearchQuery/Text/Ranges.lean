import SearchQuery.Text

/-! # Ranges of characters -/

namespace SearchQuery

/-- A set of characters as ranges of code points, in ascending order. -/
abbrev CharRanges := List (Nat × Nat)

/-- Whether a code point lies in one of the ranges. The search ends at the first range that starts
beyond it. -/
def CharRanges.holds : CharRanges → Nat → Bool
  | [], _ => false
  | (first, last) :: later, n => first ≤ n && (n ≤ last || CharRanges.holds later n)

end SearchQuery
