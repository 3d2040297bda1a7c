import SharedSheet.Worksheet.Evaluation

/-!
# Windows of a worksheet

A window shows a rectangle of cells as text: a line with the letters of the columns, then a line for
each row with its number and what its cells show. Columns are at least twelve characters wide. The
window is cut at the extent, and at the last row and column that can be numbered.

## Main definitions

* `Window` — the corner and the size
* `Worksheet.show` — the text of a window
-/

namespace SharedSheet

/-- A rectangle of cells to be shown. A window without rows or columns shows one. -/
structure Window where
  /-- The first cell. -/
  origin : Reference
  /-- The number of rows. -/
  rows : UInt32
  /-- The number of columns. -/
  cols : UInt32

namespace Window

/-- The numbers from `first` on, `count` of them and at least one, up to `limit`. -/
def span (first count limit : UInt32) : List Nat :=
  let last := min (min (first.toNat + (count.toNat - 1)) (UInt32.size - 1)) limit.toNat
  List.range' first.toNat (last + 1 - first.toNat)

/-- The rows that are shown in a sheet. -/
def shownRows (w : Window) (e : Extent) : List Nat := span w.origin.row w.rows e.rows

/-- The columns that are shown in a sheet. -/
def shownCols (w : Window) (e : Extent) : List Nat := span w.origin.column w.cols e.cols

/-- The width of a column. -/
def cellWidth : Nat := 12

/-- A text with blanks after it up to the width of a column. -/
def pad (s : String) : String := s.pushn ' ' (cellWidth - s.length)

end Window

/-- The text of a window. -/
def Worksheet.show (w : Worksheet) (v : Evaluation) (window : Window) : String :=
  let cols := window.shownCols w.extent
  let header := String.join (cols.map fun col => Window.pad (String.ofList (Column.letters col)))
  let line (row : Nat) : String := String.join (cols.map fun col =>
    Window.pad (v.shown ⟨UInt32.ofNat col, UInt32.ofNat row⟩))
  let rows := (window.shownRows w.extent).map fun row => toString row ++ "\t" ++ line row ++ "\n"
  "\t" ++ header ++ "\n" ++ String.join rows

end SharedSheet
