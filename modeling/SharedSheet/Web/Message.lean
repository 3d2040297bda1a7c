import SharedSheet.Records

/-!
# Messages

Requests carry one message and responses a list of them. A message names a sheet and carries a
number and a payload; what a request does not need may be left out.

## Main definitions

* `Message` — a sheet, a number and a payload
* `Reply` — what the service answers
-/

namespace SharedSheet.Web

open Json (RecordForm)

/-- What a request or a response is about. -/
structure Message where
  publisher : String := ""
  sheet : String := ""
  id : Nat := 0
  payload : String := ""
  deriving DecidableEq

namespace Message

/-- The sheet that is named. -/
def address (m : Message) : SheetAddress := ⟨m.publisher, m.sheet⟩

/-- The message about a sheet. -/
def ofSheet (s : Sheet) : Message := { publisher := s.owner, sheet := s.name }

/-- The message with changes since an update. -/
def ofDelta (a : SheetAddress) (d : Delta) : Message := ⟨a.publisher, a.sheet, d.lastId, d.payload⟩

/-- A message is written by its parts. -/
def toJson (m : Message) : Json :=
  .record [("publisher", .text m.publisher), ("sheet", .text m.sheet), ("id", .natural m.id),
    ("payload", .text m.payload)]

/-- The fields of a message, all of which may be left out. -/
def recordForm : RecordForm Message where
  blank := {}
  optional := true
  fields :=
    [.of "publisher" .text fun m publisher => { m with publisher },
     .of "sheet" .text fun m sheet => { m with sheet },
     .of "id" .word64 fun m id => { m with id },
     .of "payload" .text fun m payload => { m with payload }]

end Message

/-- What the service answers. -/
structure Reply where
  success : Bool
  message : String
  value : List Message
  deriving DecidableEq

namespace Reply

/-- An answer is written by its parts. -/
def toJson (r : Reply) : Json :=
  .record [("success", .truth r.success), ("message", .text r.message),
    ("value", .list (r.value.map Message.toJson))]

/-- The fields of an answer. -/
def recordForm : RecordForm Reply where
  blank := ⟨false, "", []⟩
  fields :=
    [.of "success" .truth fun r success => { r with success },
     .of "message" .text fun r message => { r with message },
     .of "value" (.list (.record Message.recordForm)) fun r value => { r with value }]

end Reply

end SharedSheet.Web
