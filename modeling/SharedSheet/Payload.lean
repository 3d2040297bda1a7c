import SharedSheet.Reference.Basic
import SharedSheet.Table
import SharedSheet.Text.Blank
import SharedSheet.Text.Lines

/-!
# Payloads

Changes of cells travel as text, one change a line: the cell, a blank, and the new term up to the
end of the line. A line with nothing after the cell clears it. Lines of white space carry no change,
and one carriage return at the end of a line belongs to the line's end.

Reading looks at no sheet and knows no sizes: any cell that can be named may be written.

## Main definitions

* `Edit`, `Edit.ofLine?` — one change, and the line that carries it
* `Payload.parse` — the changes of a payload, or the first line that carries none
* `Payload.render` — the payload of some changes
* `Payload.ofTerms` — the payload that gives some cells the terms of a table
-/

namespace SharedSheet

/-- The change of one cell. The empty term clears it. -/
structure Edit where
  /-- The cell. -/
  reference : Reference
  /-- Its new term. -/
  term : String
  deriving DecidableEq

namespace Edit

/-- Whether a character can belong to the cell at the start of a line. -/
def isNameChar (c : Char) : Bool := c == '$' || Column.isLetter c || c.isDigit

/-- The change that a line carries. The cell starts with its dollar sign, and one blank separates
it from the term. -/
def ofLine? (line : List Char) : Option Edit :=
  if line.head? == some '$' then
    match Reference.ofChars? (line.takeWhile isNameChar), line.dropWhile isNameChar with
    | some r, [] => some ⟨r, ""⟩
    | some r, ' ' :: term => some ⟨r, String.ofList term⟩
    | _, _ => none
  else none

/-- The line of a change, with its newline. -/
def render (e : Edit) : String := e.reference.toString ++ " " ++ e.term ++ "\n"

end Edit

namespace Payload

/-- A line that carries no change. -/
structure Invalid where
  /-- Its number, from 1. -/
  line : Nat
  /-- Its text. -/
  entry : String
  deriving DecidableEq

/-- What is said of a line that carries no change. -/
def Invalid.message (e : Invalid) : String :=
  "invalid payload entry on line " ++ toString e.line ++ ": " ++ Text.quoted e.entry

/-- The lines of a payload. One newline at the end ends the last line, and the empty payload has no
lines. -/
def lines (payload : String) : List (List Char) :=
  match Text.withoutFinal '\n' payload.toList with
  | [] => []
  | cs => (Text.splitAtNewlines cs).map (Text.withoutFinal '\r')

/-- The changes of lines, the first of which has the number `line`. -/
def parseLines (line : Nat) : List (List Char) → Except Invalid (List Edit)
  | [] => .ok []
  | cs :: rest =>
    if Text.isAllBlank cs then parseLines (line + 1) rest
    else
      match Edit.ofLine? cs with
      | none => .error ⟨line, String.ofList cs⟩
      | some e =>
        match parseLines (line + 1) rest with
        | .ok es => .ok (e :: es)
        | .error bad => .error bad

/-- The changes of a payload. -/
def parse (payload : String) : Except Invalid (List Edit) := parseLines 1 (lines payload)

/-- The payload of changes, a line each. -/
def render (es : List Edit) : String := String.join (es.map Edit.render)

/-- The payload that gives cells the terms of a table, and clears those that have none there. -/
def ofTerms (terms : Table Reference String) (refs : List Reference) : String :=
  render (refs.map fun r => ⟨r, (terms.find? r).getD ""⟩)

end Payload

end SharedSheet
