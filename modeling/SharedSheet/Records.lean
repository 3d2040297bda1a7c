import SharedSheet.Extent
import SharedSheet.Formula.Value
import SharedSheet.Json.Basic
import SharedSheet.Json.Decoder
import SharedSheet.Log.Basic
import SharedSheet.Payload
import SharedSheet.Registry.Basic

/-!
# Records

The JSON forms of the values that are kept in files and sent to callers. Cells are written as text,
times as text, and everything else as a record of its parts.

## Main definitions

* `toJson` of each type — how it is written
* `decoder` of each type — how it is read; `recordForm` gives the fields
-/

namespace SharedSheet

open Json (Decoder RecordForm RecordField)

/-! ### Cells and changes -/

/-- A cell is written in its canonical spelling. -/
def Reference.toJson (r : Reference) : Json := .text r.toString

/-- A cell is read in any spelling. -/
def Reference.decoder : Decoder Reference := .textual fun s => Reference.ofChars? s.toList

/-- A number, a text, or nothing. -/
def Formula.Value.decoder : Decoder Formula.Value
  | .number n =>
    match n.toFloat? with
    | some x => .ok (.number x)
    | none => .error .syntaxError
  | .text (some s) => .ok (.text s)
  | .null => .ok .blank
  | d => .error d.mismatch

/-- An extent is written by its rows and columns. -/
def Extent.toJson (e : Extent) : Json :=
  .record [("rows", .natural e.rows.toNat), ("cols", .natural e.cols.toNat)]

/-- The fields of an extent. -/
def Extent.recordForm : RecordForm Extent where
  blank := ⟨0, 0⟩
  fields :=
    [.of "rows" .word32 fun e rows => { e with rows },
     .of "cols" .word32 fun e cols => { e with cols }]

/-- A change is written by its cell and term. -/
def Edit.toJson (e : Edit) : Json :=
  .record [("reference", e.reference.toJson), ("term", .text e.term)]

/-- The fields of a change. -/
def Edit.recordForm : RecordForm Edit where
  blank := ⟨⟨0, 0⟩, ""⟩
  fields :=
    [.of "reference" Reference.decoder fun e reference => { e with reference },
     .of "term" .text fun e term => { e with term }]

/-! ### Sheets and the registry -/

/-- Who sees a sheet is written as one word. -/
def Visibility.toJson : Visibility → Json
  | .everyone => .text "public"
  | .ownerOnly => .text "private"

/-- The word for who sees a sheet. -/
def Visibility.ofWord? : String → Option Visibility
  | "public" => some .everyone
  | "private" => some .ownerOnly
  | _ => none

/-- Who sees a sheet is read as a word, or as a record with that word and nothing in it. -/
def Visibility.decoder : Decoder Visibility
  | .record [(some word, .null)] true => Decoder.textual ofWord? (.text (some word))
  | d => Decoder.textual ofWord? d

/-- A sheet is written by its parts. -/
def Sheet.toJson (s : Sheet) : Json :=
  .record [("id", .natural s.id), ("name", .text s.name), ("owner", .text s.owner),
    ("visibility", s.visibility.toJson)]

/-- The fields of a sheet. -/
def Sheet.recordForm : RecordForm Sheet where
  blank := ⟨0, "", "", .everyone⟩
  fields :=
    [.of "id" .word64 fun s id => { s with id },
     .of "name" .text fun s name => { s with name },
     .of "owner" .text fun s owner => { s with owner },
     .of "visibility" Visibility.decoder fun s visibility => { s with visibility }]

/-- A sheet's address is written by the publisher and the name. -/
def SheetAddress.toJson (a : SheetAddress) : Json :=
  .record [("publisher", .text a.publisher), ("sheet", .text a.sheet)]

/-- The fields of a sheet's address. -/
def SheetAddress.recordForm : RecordForm SheetAddress where
  blank := ⟨"", ""⟩
  fields :=
    [.of "publisher" .text fun a publisher => { a with publisher },
     .of "sheet" .text fun a sheet => { a with sheet }]

/-- The registry is written by its lists and counters. -/
def Registry.toJson (g : Registry) : Json :=
  .record [("publishers", .list (g.publishers.map .text)),
    ("sheets", .list (g.sheets.map Sheet.toJson)), ("last_sheet_id", .natural g.lastSheetId),
    ("last_update_id", .natural g.lastUpdateId)]

/-- The fields of the registry. -/
def Registry.recordForm : RecordForm Registry where
  blank := {}
  fields :=
    [.of "publishers" (.list .text) fun g publishers => { g with publishers },
     .of "sheets" (.list (.record Sheet.recordForm)) fun g sheets => { g with sheets },
     .of "last_sheet_id" .word64 fun g lastSheetId => { g with lastSheetId },
     .of "last_update_id" .word64 fun g lastUpdateId => { g with lastUpdateId }]

/-! ### The log -/

/-- A time is read as text. -/
def Timestamp.decoder : Decoder Timestamp := .textual Timestamp.ofString?

/-- An entry is written by its parts. -/
def LogEntry.toJson (e : LogEntry) : Json :=
  .record [("id", .natural e.id), ("sheet", .natural e.sheet), ("submitter", .text e.submitter),
    ("payload", .text e.payload), ("accepted", .truth e.accepted),
    ("timestamp", .text e.timestamp.text)]

/-- The fields of an entry. -/
def LogEntry.recordForm : RecordForm LogEntry where
  blank := ⟨⟨0, "", "", false, .epoch⟩, 0⟩
  fields :=
    [.of "id" .word64 fun e id => { e with id },
     .of "sheet" .word64 fun e sheet => { e with sheet },
     .of "submitter" .text fun e submitter => { e with submitter },
     .of "payload" .text fun e payload => { e with payload },
     .of "accepted" .truth fun e accepted => { e with accepted },
     .of "timestamp" Timestamp.decoder fun e timestamp => { e with timestamp }]

/-- Changes since an update are written by their payload and number. -/
def Delta.toJson (d : Delta) : Json :=
  .record [("payload", .text d.payload), ("last_id", .natural d.lastId)]

/-- The fields of changes since an update. -/
def Delta.recordForm : RecordForm Delta where
  blank := {}
  fields :=
    [.of "payload" .text fun d payload => { d with payload },
     .of "last_id" .word64 fun d lastId => { d with lastId }]

end SharedSheet
