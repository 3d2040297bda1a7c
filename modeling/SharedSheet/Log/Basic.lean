import SharedSheet.Log.Timestamp

/-!
# The log of updates

Every change of a sheet is an entry of one log that all sheets share. Entries have numbers that
grow, and are never changed. The owner of a sheet makes accepted entries, which count; everybody
else makes proposals, which are kept for the owner to look at.

## Main definitions

* `Draft`, `LogEntry` — an update before and after it is put into the log
* `Scope` — accepted entries, proposals, or both
* `Delta`, `Delta.ofEntries` — the payloads of entries in one text, and the number up to which it
  reaches
-/

namespace SharedSheet

/-- An update that is not in the log yet. -/
structure Draft where
  /-- The number of the sheet. -/
  sheet : Nat
  /-- Who made it. -/
  submitter : String
  /-- The changes. -/
  payload : String
  /-- Whether it counts, or is a proposal. -/
  accepted : Bool
  /-- When it was made. -/
  timestamp : Timestamp
  deriving DecidableEq

/-- An update in the log. -/
structure LogEntry extends Draft where
  /-- Its number. -/
  id : Nat
  deriving DecidableEq

/-- Which entries are meant. -/
inductive Scope where
  | any
  | accepted
  | proposed
  deriving DecidableEq

/-- Whether an entry is meant. -/
def Scope.admits (s : Scope) (e : LogEntry) : Bool :=
  match s with
  | .any => true
  | .accepted => e.accepted
  | .proposed => !e.accepted

/-- Changes since some update, and the last update that they cover. Whoever asks again gives that
number. -/
structure Delta where
  /-- The changes. -/
  payload : String := ""
  /-- The number of the last update covered, zero if there is none. -/
  lastId : Nat := 0
  deriving DecidableEq

namespace Delta

/-- Whether there are no changes. -/
def isEmpty (d : Delta) : Bool := d.payload.isEmpty

/-- A payload whose last line is ended, so that another payload can follow. The empty payload has no
last line. -/
def ended (payload : String) : String :=
  match payload.toList.getLast? with
  | none | some '\n' => payload
  | some _ => payload.push '\n'

/-- The changes with those of one more entry after them. -/
def push (d : Delta) (e : LogEntry) : Delta where
  payload := d.payload ++ ended e.payload
  lastId := max d.lastId e.id

/-- The changes of entries in their order. -/
def ofEntries (es : List LogEntry) : Delta := es.foldl push {}

end Delta

end SharedSheet
