import SharedSheet.Reference.Basic

/-!
# Ranges of cells

Two corners span a rectangle, whichever two opposite corners they are. Its cells are listed row by
row. A rectangle of more than 65536 cells is refused before it is listed.

## Main definitions

* `Reference.cellCount` — the number of cells of a rectangle
* `Reference.rectangle?` — its cells in order
-/

namespace SharedSheet.Reference

/-- The most cells that a range may span. -/
def maxRangeCells : Nat := 65536

/-- The columns of a rectangle, as the least one and how many there are. -/
def columnSpan (a b : Reference) : Nat × Nat :=
  let first := min a.column.toNat b.column.toNat
  (first, max a.column.toNat b.column.toNat - first + 1)

/-- The rows of a rectangle, as the least one and how many there are. -/
def rowSpan (a b : Reference) : Nat × Nat :=
  let first := min a.row.toNat b.row.toNat
  (first, max a.row.toNat b.row.toNat - first + 1)

/-- The number of cells of the rectangle between two corners. -/
def cellCount (a b : Reference) : Nat := (rowSpan a b).2 * (columnSpan a b).2

/-- The cells of the rectangle between two corners, row by row. -/
def rectangle (a b : Reference) : List Reference :=
  (List.range' (rowSpan a b).1 (rowSpan a b).2).flatMap fun row =>
    (List.range' (columnSpan a b).1 (columnSpan a b).2).map fun column =>
      ⟨UInt32.ofNat column, UInt32.ofNat row⟩

/-- The cells of a rectangle that is not too large. -/
def rectangle? (a b : Reference) : Option (List Reference) :=
  if cellCount a b ≤ maxRangeCells then some (rectangle a b) else none

end SharedSheet.Reference
