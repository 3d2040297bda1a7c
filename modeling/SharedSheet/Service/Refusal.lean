import SharedSheet.Cache
import SharedSheet.Store.Basic
import SharedSheet.Worksheet.Evaluation

/-!
# Refusals

A request to the service can be refused because of what it says, because of who makes it, because
what it names is not there, because a cell has no value, or because the store fails.

## Main definitions

* `Deed` — what callers may be forbidden to do
* `Refusal`, `Refusal.message` — why a request is refused
-/

namespace SharedSheet

/-- What callers may be forbidden to do. -/
inductive Deed where
  | createElsewhere
  | delete
  | publish
  | readPrivate
  deriving DecidableEq

/-- How a deed is worded. -/
def Deed.wording : Deed → String
  | .createElsewhere => "create sheets for another publisher"
  | .delete => "delete this sheet"
  | .publish => "publish to this sheet"
  | .readPrivate => "read a private sheet"

/-- Why a request is refused. -/
inductive Refusal where
  | invalidPayload (e : Payload.Invalid)
  | noEntries
  | emptyPublisher
  | emptySheetName
  | unknownPublisher (publisher : String)
  | unknownSheet (a : SheetAddress)
  | notCached (e : NotCached)
  | forbidden (caller : String) (deed : Deed)
  | cell (e : CellError)
  | store (e : StoreError)
  deriving DecidableEq

/-- What is said of a request that is refused. -/
def Refusal.message : Refusal → String
  | .invalidPayload e => e.message
  | .noEntries => "payload has no entries"
  | .emptyPublisher => "publisher name is empty"
  | .emptySheetName => "sheet name is empty"
  | .unknownPublisher publisher => "publisher " ++ publisher ++ " not found"
  | .unknownSheet a => "sheet " ++ a.sheet ++ " of publisher " ++ a.publisher ++ " not found"
  | .notCached e => e.message
  | .forbidden caller deed => caller ++ " is not allowed to " ++ deed.wording
  | .cell e => e.message
  | .store e => e.message

end SharedSheet
