/-!
# Sets of code points

A Unicode property is carried as the ascending list of the code points at which membership
changes: the first number opens a run of members, the second closes it (itself no member), the
third opens the next run, and so on.

## Main definitions

* `CodePoints.contains` — membership of a code point in such a set
-/

namespace SharedSheet.Text

/-- A set of code points, as the ascending list of the points where membership changes. -/
abbrev CodePoints := List Nat

/-- Whether `n` lies in one of the runs. A last run without an end has none. -/
def CodePoints.contains : CodePoints → Nat → Bool
  | [], _ => false
  | [first], n => first ≤ n
  | first :: stop :: runs, n => (first ≤ n && n < stop) || CodePoints.contains runs n

end SharedSheet.Text
