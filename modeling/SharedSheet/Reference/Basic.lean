import SharedSheet.Decimal.Digits
import SharedSheet.Reference.Column
import SharedSheet.Table
import SharedSheet.Text.Quoted

/-!
# Cell references

A reference names a cell by its column and its row, both counted from 1. It is written `$AB42`:
a dollar sign, the letters of the column, the digits of the row. Formulas, payloads and tables of
cells all use this one spelling.

## Main definitions

* `Reference` — a column and a row; the order is by column first
* `Reference.toString` — the canonical spelling
* `Reference.ofChars?`, `Reference.ofString` — reading; the dollar sign may be left out, the row
  may have leading zeros, and column and row are at least 1 and fit 32 bits
-/

namespace SharedSheet

/-- A cell coordinate. Column and row zero name no cell, and no text reads as them. -/
structure Reference where
  /-- The column, from 1. -/
  column : UInt32
  /-- The row, from 1. -/
  row : UInt32
  deriving DecidableEq, Hashable

namespace Reference

/-- References are ordered by column, and within a column by row. -/
instance : Ranked Reference where
  rank r := r.column.toNat * UInt32.size + r.row.toNat
  rank_injective {a b} h := by
    have ha := a.row.toNat_lt
    have hb := b.row.toNat_lt
    obtain ⟨c, r⟩ := a
    obtain ⟨c', r'⟩ := b
    simp only [UInt32.size] at h ha hb
    have hc : c = c' := UInt32.toNat_inj.1 (by omega)
    have hr : r = r' := UInt32.toNat_inj.1 (by omega)
    rw [hc, hr]

/-- The letters of the column. -/
def letters (r : Reference) : String := String.ofList (Column.letters r.column.toNat)

/-- The canonical spelling. -/
def toChars (r : Reference) : List Char :=
  '$' :: Column.letters r.column.toNat ++ Nat.toDigits 10 r.row.toNat

/-- The canonical spelling, as a string. -/
protected def toString (r : Reference) : String := String.ofList r.toChars

instance : ToString Reference := ⟨Reference.toString⟩

/-- The reference that letters and digits spell after an optional dollar sign. -/
def ofChars? (cs : List Char) : Option Reference :=
  let cs := match cs with
    | '$' :: cs => cs
    | cs => cs
  match Column.ofLetters? (cs.takeWhile Column.isLetter),
      Decimal.word? (cs.dropWhile Column.isLetter) with
  | some column, some row => if row = 0 then none else some ⟨column, row⟩
  | _, _ => none

/-- A text that names no cell. -/
structure Malformed where
  /-- The text that was to be read. -/
  text : String
  deriving DecidableEq

/-- What is said of a text that names no cell. -/
def Malformed.message (e : Malformed) : String :=
  "malformed cell reference " ++ Text.quoted e.text

/-- The reference that a text spells. -/
def ofString (s : String) : Except Malformed Reference :=
  match ofChars? s.toList with
  | some r => .ok r
  | none => .error ⟨s⟩

end Reference

/-- The column that letters spell. -/
def Column.ofString (s : String) : Except Reference.Malformed UInt32 :=
  match Column.ofLetters? s.toList with
  | some column => .ok column
  | none => .error ⟨s⟩

end SharedSheet
