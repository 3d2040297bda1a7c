import SharedSheet.Extent
import SharedSheet.Payload

/-!
# Worksheets

A worksheet holds the terms of one sheet and its extent. A cell without a term is not in it, so
writing the empty term takes the cell out. The extent takes in every cell that is written, also one
that is cleared by it, and never shrinks.

## Main definitions

* `Worksheet.set`, `Worksheet.get?` — one cell
* `Worksheet.apply`, `Worksheet.applyPayload` — many changes, all of them or none
* `Worksheet.payload` — the changes that build the terms up from nothing
* `Worksheet.clearRow`, `Worksheet.clearColumn` — taking cells out, with the payload that does so
  elsewhere
-/

namespace SharedSheet

/-- The terms of a sheet and its extent. -/
structure Worksheet where
  /-- How far the sheet reaches. -/
  extent : Extent
  /-- The terms of the cells that have one. -/
  terms : Table Reference String := ∅

namespace Worksheet

/-- The term of a cell. -/
def get? (w : Worksheet) (r : Reference) : Option String := w.terms.find? r

/-- Gives a cell a term. -/
def set (w : Worksheet) (r : Reference) (term : String) : Worksheet where
  extent := w.extent.grow r
  terms := if term = "" then w.terms.erase r else w.terms.insert r term

/-- Makes changes one after another. -/
def apply (w : Worksheet) (es : List Edit) : Worksheet :=
  es.foldl (fun w e => w.set e.reference e.term) w

/-- Makes the changes of a payload and counts them. A payload with a line that carries no change
changes nothing. -/
def applyPayload (w : Worksheet) (payload : String) : Except Payload.Invalid (Worksheet × Nat) :=
  match Payload.parse payload with
  | .ok es => .ok (w.apply es, es.length)
  | .error e => .error e

/-- The payload that gives cells the terms that they have here. -/
def payloadOf (w : Worksheet) (refs : List Reference) : String := Payload.ofTerms w.terms refs

/-- The payload of all terms. -/
def payload (w : Worksheet) : String := w.payloadOf w.terms.keys

/-- Takes out the cells that a test chooses. Returns the payload that clears them elsewhere. The
extent stays. -/
def clear (w : Worksheet) (chosen : Reference → Bool) : Worksheet × String :=
  ({ w with terms := w.terms.filter fun r _ => !chosen r },
    Payload.render ((w.terms.keys.filter chosen).map fun r => ⟨r, ""⟩))

/-- Takes out the cells of a row. -/
def clearRow (w : Worksheet) (row : UInt32) : Worksheet × String := w.clear (·.row == row)

/-- Takes out the cells of a column. -/
def clearColumn (w : Worksheet) (column : UInt32) : Worksheet × String :=
  w.clear (·.column == column)

/-! ### What the operations do to cells -/

theorem get?_set (w : Worksheet) (r r' : Reference) (term : String) :
    (w.set r term).get? r' =
      if r' = r then (if term = "" then none else some term) else w.get? r' := by
  simp only [get?, set]
  split <;> simp [Table.find?_erase, Table.find?_insert, Ranked.rank_inj]

end Worksheet

end SharedSheet
