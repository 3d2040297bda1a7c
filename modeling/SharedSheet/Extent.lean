import SharedSheet.Reference.Basic

/-!
# Extents

A sheet keeps track of its size: how many rows and columns it reaches. Writing a cell outside
enlarges it, and nothing makes it smaller.

## Main definitions

* `Extent.contains` — whether a cell lies inside
* `Extent.grow` — the extent enlarged by a cell
-/

namespace SharedSheet

/-- The size of a sheet. -/
structure Extent where
  /-- The number of rows. -/
  rows : UInt32
  /-- The number of columns. -/
  cols : UInt32
  deriving DecidableEq

namespace Extent

/-- Whether a cell lies inside. -/
def contains (e : Extent) (r : Reference) : Bool := r.row ≤ e.rows && r.column ≤ e.cols

/-- The least extent that holds another one and a cell. -/
def grow (e : Extent) (r : Reference) : Extent where
  rows := if e.rows < r.row then r.row else e.rows
  cols := if e.cols < r.column then r.column else e.cols

/-- A cell inside changes nothing. -/
theorem grow_of_contains {e : Extent} {r : Reference} (h : e.contains r = true) :
    e.grow r = e := by
  simp only [contains, Bool.and_eq_true, decide_eq_true_eq] at h
  simp only [grow, UInt32.not_lt.2 h.1, UInt32.not_lt.2 h.2, if_false]

end Extent

end SharedSheet
