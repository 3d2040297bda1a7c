import SharedSheet.Extent
import SharedSheet.Log.Basic
import SharedSheet.Payload

/-!
# The cache

The cache holds what the accepted entries of the log add up to: for every sheet the last term of
each cell, the number of the update that wrote it, and how far the sheet reaches. A cell that was
cleared stays, with the empty term, so that those who ask for changes hear of it.

Entries are folded in one at a time. The cache remembers the greatest number folded, and a build
passes over entries up to that number: a cache that was kept from before is brought up to date by
the whole log.

## Main definitions

* `CachedCell`, `CachedSheet`, `Cache`
* `Cache.register`, `Cache.remove` — which sheets are known
* `Cache.fold`, `Cache.build` — taking in entries
* `CachedSheet.delta` — the cells written since an update
-/

namespace SharedSheet

/-- The last write of a cell. -/
structure CachedCell where
  term : String
  /-- The update that wrote it. -/
  updateId : Nat
  deriving DecidableEq

/-- What the accepted entries of a sheet add up to. -/
structure CachedSheet where
  extent : Extent
  cells : Table Reference CachedCell := ∅

namespace CachedSheet

/-- The sheet after an update wrote a cell. -/
def write (s : CachedSheet) (updateId : Nat) (e : Edit) : CachedSheet where
  extent := s.extent.grow e.reference
  cells := s.cells.insert e.reference ⟨e.term, updateId⟩

/-- The sheet after an update made changes. -/
def writeAll (s : CachedSheet) (updateId : Nat) (es : List Edit) : CachedSheet :=
  es.foldl (·.write updateId) s

/-- The cells last written after an update, in the order of the updates that wrote them, and for one
update in the order of the cells. -/
def writtenSince (s : CachedSheet) (since : Nat) : List (Reference × CachedCell) :=
  (s.cells.rows.filter fun row => since < row.2.updateId).mergeSort
    fun a b => a.2.updateId ≤ b.2.updateId

/-- The payload that writes those cells. -/
def delta (s : CachedSheet) (since : Nat) : Delta where
  payload := Payload.render ((s.writtenSince since).map fun row => ⟨row.1, row.2.term⟩)
  lastId := (s.writtenSince since).foldl (fun n row => max n row.2.updateId) 0

end CachedSheet

/-- A sheet that the cache does not know. -/
structure NotCached where
  sheet : Nat
  deriving DecidableEq

/-- What is said of a sheet that the cache does not know. -/
def NotCached.message (e : NotCached) : String :=
  "sheet id " ++ toString e.sheet ++ " is not cached"

/-- Why an entry cannot be folded. -/
inductive FoldError where
  | invalid (e : Payload.Invalid)
  | notCached (e : NotCached)
  deriving DecidableEq

/-- What the accepted entries of the log add up to. -/
structure Cache where
  /-- The extent of a sheet that nothing was written to. -/
  defaultExtent : Extent
  /-- The sheets by their numbers. -/
  sheets : Table Nat CachedSheet := ∅
  /-- The greatest number of an entry that was folded. -/
  lastFolded : Nat := 0

namespace Cache

/-- The numbers of the sheets that are known, in order. -/
def sheetIds (c : Cache) : List Nat := c.sheets.keys

/-- Makes a sheet known. One that is known stays as it is. -/
def register (c : Cache) (id : Nat) : Cache :=
  if c.sheets.contains id then c
  else { c with sheets := c.sheets.insert id { extent := c.defaultExtent } }

/-- Forgets a sheet. -/
def remove (c : Cache) (id : Nat) : Cache := { c with sheets := c.sheets.erase id }

/-- A sheet that is known. -/
def sheet (c : Cache) (id : Nat) : Except NotCached CachedSheet :=
  match c.sheets.find? id with
  | some s => .ok s
  | none => .error ⟨id⟩

/-- The last write of a cell. -/
def cell? (c : Cache) (id : Nat) (r : Reference) : Option CachedCell :=
  (c.sheets.find? id).bind (·.cells.find? r)

/-- The cache after an update made changes in a sheet. -/
def update (c : Cache) (id : Nat) (es : List Edit) (updateId : Nat) : Except NotCached Cache :=
  match c.sheet id with
  | .ok s =>
    .ok { c with
      sheets := c.sheets.insert id (s.writeAll updateId es)
      lastFolded := max c.lastFolded updateId }
  | .error e => .error e

/-- The cache after an accepted entry, and nothing for a proposal. -/
def fold (c : Cache) (e : LogEntry) : Except FoldError (Option Cache) :=
  if !e.accepted then .ok none
  else
    match Payload.parse e.payload with
    | .error bad => .error (.invalid bad)
    | .ok es =>
      match c.update e.sheet es e.id with
      | .error bad => .error (.notCached bad)
      | .ok c => .ok (some c)

/-- The cache after the next entry of a log, with the number of entries folded. Entries folded
before, proposals and entries that cannot be folded leave the cache as it is. -/
def absorb (c : Cache × Nat) (e : LogEntry) : Cache × Nat :=
  if e.id ≤ c.1.lastFolded then c
  else
    match c.1.fold e with
    | .ok (some folded) => (folded, c.2 + 1)
    | _ => c

/-- The cache after the entries of a log in the order of their numbers, and how many were folded. -/
def build (c : Cache) (es : List LogEntry) : Cache × Nat := es.foldl absorb (c, 0)

end Cache

end SharedSheet
