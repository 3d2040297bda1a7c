import Mathlib.Data.List.Sort
import SharedSheet.Proofs.Service.Run

/-!
# The cache is what the log says

A service keeps its cache by itself: sheets are registered and removed as they come and go, and
every accepted update is folded in as it is made. After a restart the cache is built again, from a
checkpoint and the entries that it does not know, or from the whole log. Whichever way it came
about, the cache of a service that is reached says exactly what the log says, cell by cell.

`Cache.SumsUp` says this without any of the functions that maintain the cache. It speaks about
entries, about the lines of their payloads and about the greatest number, and it is the
specification that the folds are proved against.

## Main definitions

* `Cache.SumsUp` — a cache says what the log of a book says
* `lastIssued` — the last number given to an update

## Main results

* `Cache.Mirrors.sumsUp` — a cache that mirrors a book sums it up
* `Server.sumsUp_cache` — the cache of every server that is reached sums up its store
-/

namespace SharedSheet

/-- An entry has a line for a cell. -/
def LogEntry.Touches (e : LogEntry) (r : Reference) : Prop := ∃ edit ∈ e.edits, edit.reference = r

/-- A cache says what the log of a book says. -/
structure Cache.SumsUp (c : Cache) (extent : Extent) (b : Book) : Prop where
  /-- The sheets that are known are the sheets of the book. -/
  sheetIds : c.sheetIds = b.registry.sheets.map (·.id)
  /-- The cells of a sheet are those for which some accepted entry of it has a line. -/
  mem_cells : ∀ id s, c.sheet id = .ok s → ∀ r, r ∈ s.cells.keys ↔
    ∃ e ∈ b.entries, e.accepted = true ∧ e.sheet = id ∧ e.Touches r
  /-- A cell has the term of the last line for it in the last accepted entry that has one, and the
  number of that entry. -/
  cell : ∀ id s, c.sheet id = .ok s → ∀ r cell, s.cells.find? r = some cell →
    ∃ e ∈ b.entries, e.accepted = true ∧ e.sheet = id ∧ e.id = cell.updateId ∧
      Edit.lastTerm? r e.edits = some cell.term ∧
      ∀ f ∈ b.entries, f.accepted = true → f.sheet = id → f.Touches r → f.id ≤ e.id
  /-- The extent is the least one that holds the default one and the cells. -/
  extent : ∀ id s, c.sheet id = .ok s → ∀ e : Extent, s.extent.Within e ↔
    extent.Within e ∧ ∀ r ∈ s.cells.keys, e.contains r = true
  /-- No accepted entry has a number beyond the last one folded. -/
  folded : ∀ e ∈ b.entries, e.accepted = true → e.id ≤ c.lastFolded

namespace Cache.Mirrors

variable {c : Cache} {extent : Extent} {b : Book}

theorem sheetIds (h : c.Mirrors extent b) (hb : b.Sound) :
    c.sheetIds = b.registry.sheets.map (·.id) := by
  have hkeys : c.sheetIds.Pairwise (· < ·) := List.pairwise_map.2 c.sheets.sorted
  have hids : (b.registry.sheets.map (·.id)).Pairwise (· < ·) :=
    List.pairwise_map.2 hb.registry.ascending
  have hmem : ∀ id, id ∈ c.sheetIds ↔ id ∈ b.registry.sheets.map (·.id) := fun id => by
    rw [Cache.sheetIds, Table.mem_keys_iff, h.find?, List.mem_map, ← Registry.hasSheet_iff]
    split <;> simp_all
  exact hkeys.eq_of_mem_iff hids hmem

theorem sheet_eq_ok (h : c.Mirrors extent b) {id : Nat} {s : CachedSheet}
    (hs : c.sheet id = .ok s) : s = .ofEntries extent (b.acceptedOf id) := by
  cases hid : b.registry.hasSheet id with
  | true => exact Except.ok.inj (hs.symm.trans (h.sheet hid))
  | false => simp [Cache.sheet, h.find?, hid] at hs

/-- The extent is enlarged by the cells and by nothing else. -/
theorem extent_eq (h : c.Mirrors extent b) {id : Nat} {s : CachedSheet} (hs : c.sheet id = .ok s) :
    s.extent = extent.growAll s.cells.keys := by
  rw [h.sheet_eq_ok hs]
  exact CachedSheet.extent_ofEntries_eq_keys

/-- **A cache that mirrors a book sums it up.** -/
theorem sumsUp (h : c.Mirrors extent b) (hb : b.Sound) : c.SumsUp extent b where
  sheetIds := h.sheetIds hb
  mem_cells id s hs r := by
    rw [h.sheet_eq_ok hs, Table.mem_keys_iff, CachedSheet.find?_ofEntries, CachedCell.last?_isSome]
    simp only [Book.mem_acceptedOf, and_assoc]
    rfl
  cell id s hs r cell hcell := by
    rw [h.sheet_eq_ok hs, CachedSheet.find?_ofEntries] at hcell
    obtain ⟨e, he, hid, hterm, hmax⟩ :=
      CachedCell.exists_of_last? (hb.ascending_acceptedOf id) hcell
    obtain ⟨hmem, haccepted, hsheet⟩ := Book.mem_acceptedOf.1 he
    exact ⟨e, hmem, haccepted, hsheet, hid, hterm, fun f hf hacc hsh htouch =>
      hmax f (Book.mem_acceptedOf.2 ⟨hf, hacc, hsh⟩) htouch⟩
  extent id s hs e := by rw [h.extent_eq hs, Extent.growAll_within_iff]
  folded := h.folded

end Cache.Mirrors

/-- The last number given to an update, zero before the first. -/
def lastIssued (replies : List Reply) : Nat := (issuedIds replies).getLast?.getD 0

namespace Server

variable {σ : Type} [Medium σ]

theorem lastIssued_history {extent : Extent} {keepsCheckpoint : Bool} {es : List Event}
    (hfew : (issuedIds (history σ extent keepsCheckpoint es).2).length < UInt64.size) :
    lastIssued (history σ extent keepsCheckpoint es).2 =
      (history σ extent keepsCheckpoint es).1.lastUpdateId := by
  obtain ⟨-, -, hlast, hissued⟩ := sound_history hfew
  rw [lastIssued, hlast]
  generalize (issuedIds (history σ extent keepsCheckpoint es).2).length = n at hissued
  rw [hissued, List.getLast?_range']
  split
  · rename_i hn
    exact hn.symm
  · exact Nat.add_sub_cancel_left 1 n

/-- **The cache of every server that is reached sums up its store**, and it has folded nothing that
was not given a number. The store is any medium, the run any list of requests, checkpoints, restarts
and refused accesses. -/
theorem sumsUp_cache (extent : Extent) (keepsCheckpoint : Bool) (es : List Event)
    (hfew : (issuedIds (history σ extent keepsCheckpoint es).2).length < UInt64.size) {c : Cache}
    (hbuilt : (history σ extent keepsCheckpoint es).1.service.cache = some c) :
    c.SumsUp extent (history σ extent keepsCheckpoint es).1.service.book ∧
      c.lastFolded ≤ lastIssued (history σ extent keepsCheckpoint es).2 := by
  obtain ⟨hsound, hextent, -, -⟩ := sound_history hfew
  have hmirrors := hsound.cache c hbuilt
  rw [hextent] at hmirrors
  rw [lastIssued_history hfew]
  exact ⟨hmirrors.sumsUp hsound.book, hmirrors.lastFolded_le⟩

theorem sumsUp_cache_publishing : ∃ c s,
    (history Book ⟨10, 10⟩ false (publishing ["$A1 1\n$L20 x", "$A1"])).1.service.cache = some c ∧
      c.SumsUp ⟨10, 10⟩
        (history Book ⟨10, 10⟩ false (publishing ["$A1 1\n$L20 x", "$A1"])).1.service.book ∧
      c.lastFolded ≤
        lastIssued (history Book ⟨10, 10⟩ false (publishing ["$A1 1\n$L20 x", "$A1"])).2 ∧
      c.sheets.find? planSheet.id = some s ∧ s.extent = ⟨20, 12⟩ ∧
      s.cells.rows = [(⟨1, 1⟩, ⟨"", 2⟩), (⟨12, 20⟩, ⟨"x", 1⟩)] := by
  have hrows : (history Book ⟨10, 10⟩ false
      (publishing ["$A1 1\n$L20 x", "$A1"])).1.service.cache.bind
        (fun c => (c.sheets.find? planSheet.id).map fun s => (s.extent, s.cells.rows)) =
      some (⟨20, 12⟩, [(⟨1, 1⟩, ⟨"", 2⟩), (⟨12, 20⟩, ⟨"x", 1⟩)]) := by decide +kernel
  obtain ⟨c, hc, hsheet⟩ := Option.bind_eq_some_iff.1 hrows
  obtain ⟨s, hs, hparts⟩ := Option.map_eq_some_iff.1 hsheet
  obtain ⟨hextent, hcells⟩ := Prod.mk.inj hparts
  obtain ⟨hsumsUp, hfolded⟩ := sumsUp_cache ⟨10, 10⟩ false _ (by decide +kernel) hc
  exact ⟨c, s, hc, hsumsUp, hfolded, hs, hextent, hcells⟩

end Server

end SharedSheet
