import SharedSheet.Registry.Sheet

/-!
# The registry

The registry lists the publishers and the sheets in the order in which they were made. It also
counts: the number of the last sheet and of the last update are remembered, so that a number is not
given again after its sheet or its updates are gone.

## Main definitions

* `Registry`, `Registry.addPublisher`, `Registry.addSheet`, `Registry.removeSheet`
* `Registry.knows`, `Registry.findSheet?`, `Registry.hasSheet` — look-ups
-/

namespace SharedSheet

/-- The publishers and the sheets. -/
structure Registry where
  /-- The publishers, in the order in which they came. -/
  publishers : List String := []
  /-- The sheets, in the order in which they were made. -/
  sheets : List Sheet := []
  /-- The number of the last sheet made. -/
  lastSheetId : Nat := 0
  /-- The number of the last update, as far as the registry knows. -/
  lastUpdateId : Nat := 0
  deriving DecidableEq

namespace Registry

/-- Whether a publisher is listed. -/
def knows (g : Registry) (publisher : String) : Bool := g.publishers.contains publisher

/-- The registry with a further publisher. -/
def addPublisher (g : Registry) (publisher : String) : Registry :=
  { g with publishers := g.publishers ++ [publisher] }

/-- The first sheet that callers name so. -/
def findSheet? (g : Registry) (a : SheetAddress) : Option Sheet := g.sheets.find? (·.isAt a)

/-- Whether there is a sheet of a number. -/
def hasSheet (g : Registry) (id : Nat) : Bool := g.sheets.any (·.id == id)

/-- The next sheet to be made. -/
def nextSheet (g : Registry) (a : SheetAddress) (v : Visibility) : Sheet :=
  ⟨g.lastSheetId + 1, a.sheet, a.publisher, v⟩

/-- The registry with the next sheet. -/
def addSheet (g : Registry) (a : SheetAddress) (v : Visibility) : Registry :=
  { g with sheets := g.sheets ++ [g.nextSheet a v], lastSheetId := g.lastSheetId + 1 }

/-- The registry without the sheet of a number. -/
def removeSheet (g : Registry) (id : Nat) : Registry :=
  { g with sheets := g.sheets.filter (·.id != id) }

/-- The registry after an update got a number. -/
def noteUpdate (g : Registry) (id : Nat) : Registry :=
  { g with lastUpdateId := max g.lastUpdateId id }

end Registry

end SharedSheet
