import SharedSheet.Store.Basic
import SharedSheet.Store.Disk
import SharedSheet.Store.LogFile

/-!
# Stores on disk

A store on disk holds its book in memory and keeps the files up to date. An update is appended to
the log's file before it counts. The registry's file is replaced as a whole; the replacement is what
makes a change of the registry count.

A sheet is deleted by the new registry. Rewriting the log without the sheet's entries comes after
that and may fail: entries of sheets that are not in the registry are orphans, and are dropped when
the store is opened again.

## Main definitions

* `FileStore` — a book and the disk that holds it
* `FileStore.openDisk` — the book that a disk holds
* the instance of `Store`
-/

namespace SharedSheet

/-- A store on disk. -/
structure FileStore where
  book : Book
  disk : Disk

namespace FileStore

/-! ### Opening -/

/-- The registry of a disk. Without a file it is empty. -/
def readRegistry (d : Disk) : Except StoreError Registry :=
  match d.readText? .registry with
  | none => .error .io
  | some none => .ok {}
  | some (some s) =>
    match Registry.parse s with
    | .ok g => .ok g
    | .error _ => .error .json

/-- The entries of a disk, and whether the last line is torn. Without a file there are none. -/
def readLog (d : Disk) : Except StoreError (List LogEntry × Bool) :=
  match d.readText? .log with
  | none => .error .io
  | some none => .ok ([], false)
  | some (some s) =>
    match LogFile.parse s with
    | .ok found => .ok found
    | .error _ => .error .json

/-- The registry once it knows the numbers of all entries. -/
def recovered (g : Registry) (es : List LogEntry) : Registry :=
  es.foldl (fun g e => g.noteUpdate e.id) g

/-- The effects that give the log's file a new content. -/
def rewriteLog (es : List LogEntry) : List Effect :=
  Effect.replace .logTemp .log (LogFile.render es)

/-- The effects that give the registry's file a new content. -/
def rewriteRegistry (g : Registry) : List Effect :=
  Effect.replace .registryTemp .registry g.render

/-- The book that a disk holds, and the disk once a torn line and orphans are off it. -/
def openDisk : Operation Disk StoreError Book := fun d =>
  match readRegistry d with
  | .error e => (.error e, d)
  | .ok g =>
    match readLog d with
    | .error e => (.error e, d)
    | .ok (es, torn) =>
      let kept := es.filter fun e => g.hasSheet e.sheet
      let book : Book := ⟨recovered g es, kept⟩
      if torn || kept.length != es.length then
        match d.performAll (rewriteLog kept) with
        | (true, d) => (.ok book, d)
        | (false, d) => (.error .io, d)
      else (.ok book, d)

/-! ### Operations -/

/-- Puts an update into the log. -/
def append (d : Draft) : Operation FileStore StoreError LogEntry := fun s =>
  let e := s.book.nextEntry d
  match s.disk.performAll [.append .log e.line.toUTF8] with
  | (true, disk) => (.ok e, ⟨s.book.addEntry e, disk⟩)
  | (false, disk) => (.error .io, ⟨s.book, disk⟩)

/-- Replaces the registry. -/
def commit (g : Registry) : Operation FileStore StoreError Unit := fun s =>
  match s.disk.performAll (rewriteRegistry g) with
  | (true, disk) => (.ok (), ⟨{ s.book with registry := g }, disk⟩)
  | (false, disk) => (.error .io, ⟨s.book, disk⟩)

/-- Lists a publisher. -/
def registerPublisher (publisher : String) : Operation FileStore StoreError Bool := fun s =>
  if s.book.registry.knows publisher then (.ok false, s)
  else
    match commit (s.book.registry.addPublisher publisher) s with
    | (.ok (), s) => (.ok true, s)
    | (.error e, s) => (.error e, s)

/-- Makes a sheet. -/
def insertSheet (a : SheetAddress) (v : Visibility) : Operation FileStore StoreError Sheet :=
  fun s =>
    match commit (s.book.registry.addSheet a v) s with
    | (.ok (), after) => (.ok (s.book.registry.nextSheet a v), after)
    | (.error e, after) => (.error e, after)

/-- Takes out a sheet with its entries. If the log cannot be rewritten the entries are off the book
all the same. -/
def deleteSheet (id : Nat) : Operation FileStore StoreError Bool := fun s =>
  if s.book.registry.hasSheet id then
    match commit (s.book.registry.removeSheet id) s with
    | (.ok (), s) =>
      let entries := s.book.withoutSheet id
      (.ok true, ⟨{ s.book with entries }, (s.disk.performAll (rewriteLog entries)).2⟩)
    | (.error e, s) => (.error e, s)
  else (.ok false, s)

instance : Store FileStore where
  book := book
  append := append
  registerPublisher := registerPublisher
  insertSheet := insertSheet
  deleteSheet := deleteSheet

end FileStore

end SharedSheet
