import SharedSheet.Log.Basic
import SharedSheet.Registry.Basic

/-!
# Stores

A store keeps the log and the registry, gives updates and sheets their numbers, and is what
everything else can be built from again. What a store holds is a `Book`: all questions are answered
from it. Changes go through the operations of the class `Store`, which may fail; a failed operation
leaves the book as it was.

The plainest store is the book itself. It never fails, and forgets everything when it goes.

## Main definitions

* `Book`, `Book.acceptedAfter`, `Book.sheetUpdates` — what a store holds and how it is asked
* `StoreError` — why an operation fails
* `Store` — the operations
-/

namespace SharedSheet

/-- What a store holds. -/
structure Book where
  registry : Registry := {}
  /-- The entries of the log in the order of their numbers. -/
  entries : List LogEntry := []
  deriving DecidableEq

namespace Book

/-- The accepted entries of all sheets after an update. -/
def acceptedAfter (b : Book) (after : Nat) : List LogEntry :=
  b.entries.filter fun e => e.accepted && after < e.id

/-- The entries of a sheet after an update. -/
def sheetUpdates (b : Book) (sheet : Nat) (scope : Scope) (after : Nat) : List LogEntry :=
  b.entries.filter fun e => e.sheet == sheet && after < e.id && scope.admits e

/-- The next entry of the log. -/
def nextEntry (b : Book) (d : Draft) : LogEntry := { d with id := b.registry.lastUpdateId + 1 }

/-- The book with a further entry. -/
def addEntry (b : Book) (e : LogEntry) : Book where
  registry := b.registry.noteUpdate e.id
  entries := b.entries ++ [e]

/-- The entries without those of a sheet. -/
def withoutSheet (b : Book) (id : Nat) : List LogEntry := b.entries.filter (·.sheet != id)

end Book

/-- Why an operation of a store fails. -/
inductive StoreError where
  /-- A file cannot be opened, read, made or put in its place. -/
  | io
  /-- A file does not hold what it should. -/
  | json
  deriving DecidableEq

/-- What is said of an operation that failed. -/
def StoreError.message : StoreError → String
  | .io => "IO error"
  | .json => "JSON error"

/-- An operation on a state: its answer and the state after it, also when it fails. -/
abbrev Operation (σ ε α : Type) := σ → Except ε α × σ

/-- Stores. -/
class Store (σ : Type) where
  /-- What the store holds. -/
  book : σ → Book
  /-- Puts an update into the log. -/
  append : Draft → Operation σ StoreError LogEntry
  /-- Lists a publisher. The answer is whether the publisher is new. -/
  registerPublisher : String → Operation σ StoreError Bool
  /-- Makes a sheet under a name that is free. -/
  insertSheet : SheetAddress → Visibility → Operation σ StoreError Sheet
  /-- Takes out a sheet with its entries. The answer is whether there was one. -/
  deleteSheet : Nat → Operation σ StoreError Bool

namespace Book

/-- Puts an update into the log. -/
def append (d : Draft) (b : Book) : LogEntry × Book := (b.nextEntry d, b.addEntry (b.nextEntry d))

/-- Lists a publisher, unless the publisher is listed. -/
def registerPublisher (publisher : String) (b : Book) : Bool × Book :=
  if b.registry.knows publisher then (false, b)
  else (true, { b with registry := b.registry.addPublisher publisher })

/-- Makes a sheet. -/
def insertSheet (a : SheetAddress) (v : Visibility) (b : Book) : Sheet × Book :=
  (b.registry.nextSheet a v, { b with registry := b.registry.addSheet a v })

/-- Takes out the entries of a sheet, and the sheet if there is one. -/
def deleteSheet (id : Nat) (b : Book) : Bool × Book :=
  (b.registry.hasSheet id,
    { registry := b.registry.removeSheet id, entries := b.withoutSheet id })

end Book

instance : Store Book where
  book b := b
  append d b := let (e, b) := b.append d; (.ok e, b)
  registerPublisher p b := let (isNew, b) := b.registerPublisher p; (.ok isNew, b)
  insertSheet a v b := let (s, b) := b.insertSheet a v; (.ok s, b)
  deleteSheet id b := let (found, b) := b.deleteSheet id; (.ok found, b)

end SharedSheet
