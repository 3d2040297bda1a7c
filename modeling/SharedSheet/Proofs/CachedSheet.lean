import SharedSheet.Proofs.Store.Book
import SharedSheet.Proofs.Worksheet
import SharedSheet.Service.Basic

/-!
# What a cached sheet holds

A cached sheet is made by entries one after another, and what they make of it can be said without
making it. A cell holds the last write of it, the extent is enlarged by the cells, and the worksheet
is the one that all changes make in their order. The cache forgets in which order cells were
written and which terms were replaced, and nothing that a worksheet shows depends on either.

## Main definitions

* `CachedSheet.ofEntries` — what entries make of a new sheet
* `CachedCell.last?` — the last write of a cell by entries

## Main results

* `CachedSheet.find?_ofEntries` — cells hold their last writes
* `CachedSheet.worksheet_ofEntries` — the worksheet of a sheet is made by all changes in order
-/

namespace SharedSheet

/-! ### Last writes -/

namespace CachedCell

/-- The last write of a cell by entries: the last of them that names the cell, and the last term
that it gives it. -/
def last? (r : Reference) (es : List LogEntry) : Option CachedCell :=
  es.foldl (fun found e => ((Edit.lastTerm? r e.edits).map (⟨·, e.id⟩)).or found) none

variable {r : Reference} {es : List LogEntry}

theorem last?_concat (e : LogEntry) :
    last? r (es ++ [e]) = ((Edit.lastTerm? r e.edits).map (⟨·, e.id⟩)).or (last? r es) := by
  simp [last?]

/-- The term of the last write is the last term of all changes together. -/
theorem map_term_last? (r : Reference) (es : List LogEntry) :
    (last? r es).map (·.term) = Edit.lastTerm? r (es.flatMap LogEntry.edits) := by
  induction es using List.reverseRecOn with
  | nil => rfl
  | append_singleton es e ih =>
    rw [last?_concat, List.flatMap_append, Edit.lastTerm?_append, ← ih]
    have hsingle : [e].flatMap LogEntry.edits = e.edits := by simp
    rw [hsingle]
    cases Edit.lastTerm? r e.edits <;> rfl

/-- The entry of the last write, and that no later entry names the cell. -/
theorem exists_of_last? {c : CachedCell} (hsorted : es.Pairwise (·.id < ·.id))
    (h : last? r es = some c) :
    ∃ e ∈ es, e.id = c.updateId ∧ Edit.lastTerm? r e.edits = some c.term ∧
      ∀ f ∈ es, (∃ edit ∈ f.edits, edit.reference = r) → f.id ≤ e.id := by
  induction es using List.reverseRecOn with
  | nil => simp [last?] at h
  | append_singleton es e ih =>
    obtain ⟨hes, -, hlt⟩ := List.pairwise_append.1 hsorted
    rw [last?_concat] at h
    cases hlast : Edit.lastTerm? r e.edits with
    | some term =>
      rw [hlast] at h
      obtain rfl : ⟨term, e.id⟩ = c := by simpa using h
      refine ⟨e, by simp, rfl, hlast, fun f hf _ => ?_⟩
      rcases List.mem_append.1 hf with hf | hf
      · exact Nat.le_of_lt (hlt f hf e (by simp))
      · exact Nat.le_of_eq (congrArg (·.id) (List.mem_singleton.1 hf))
    | none =>
      rw [hlast] at h
      obtain ⟨f, hf, hid, hterm, hmax⟩ := ih hes (by simpa using h)
      refine ⟨f, List.mem_append_left _ hf, hid, hterm, fun f' hf' htouch => ?_⟩
      rcases List.mem_append.1 hf' with hf' | hf'
      · exact hmax f' hf' htouch
      · rw [List.mem_singleton.1 hf', ← Edit.lastTerm?_isSome, hlast] at htouch
        simp at htouch

theorem last?_isSome :
    (last? r es).isSome = true ↔ ∃ e ∈ es, ∃ edit ∈ e.edits, edit.reference = r := by
  have hterm := congrArg Option.isSome (map_term_last? r es)
  rw [Option.isSome_map] at hterm
  rw [hterm, Edit.lastTerm?_isSome]
  simp only [List.mem_flatMap]
  constructor
  · rintro ⟨edit, ⟨e, he, hedit⟩, hr⟩
    exact ⟨e, he, edit, hedit, hr⟩
  · rintro ⟨e, he, edit, hedit, hr⟩
    exact ⟨edit, ⟨e, he, hedit⟩, hr⟩

end CachedCell

/-! ### One sheet -/

namespace Table

variable {α : Type} {r : Reference}

theorem find?_insert_reference (t : Table Reference α) (q r : Reference) (v : α) :
    (t.insert q v).find? r = if q = r then some v else t.find? r := by
  simp only [find?_insert, Ranked.rank_inj, eq_comm]

theorem mem_keys_iff {κ : Type} [Ranked κ] {t : Table κ α} {k : κ} :
    k ∈ t.keys ↔ (t.find? k).isSome = true := by
  rw [keys, List.mem_map]
  constructor
  · rintro ⟨⟨k, v⟩, hrow, rfl⟩
    rw [mem_rows_iff.1 hrow]
    rfl
  · intro h
    obtain ⟨v, hv⟩ := Option.isSome_iff_exists.1 h
    exact ⟨(k, v), mem_rows_iff.2 hv, rfl⟩

end Table

namespace CachedSheet

/-- The sheet after an entry. -/
def take (s : CachedSheet) (e : LogEntry) : CachedSheet := s.writeAll e.id e.edits

/-- What entries make of a new sheet. -/
def ofEntries (extent : Extent) (es : List LogEntry) : CachedSheet := es.foldl take { extent }

variable {s : CachedSheet} {extent : Extent} {es : List LogEntry}

theorem ofEntries_append (fs : List LogEntry) :
    ofEntries extent (es ++ fs) = fs.foldl take (ofEntries extent es) := by
  simp [ofEntries]

theorem ofEntries_concat (e : LogEntry) :
    ofEntries extent (es ++ [e]) = (ofEntries extent es).take e := by
  simp [ofEntries]

theorem extent_writeAll (id : Nat) (edits : List Edit) :
    (s.writeAll id edits).extent = s.extent.growAll (edits.map (·.reference)) := by
  induction edits generalizing s with
  | nil => rfl
  | cons e edits ih =>
    show ((s.write id e).writeAll id edits).extent = _
    rw [ih]
    rfl

theorem find?_writeAll (id : Nat) (edits : List Edit) (r : Reference) :
    (s.writeAll id edits).cells.find? r =
      ((Edit.lastTerm? r edits).map (⟨·, id⟩)).or (s.cells.find? r) := by
  induction edits using List.reverseRecOn with
  | nil => rfl
  | append_singleton edits e ih =>
    have hwrite : s.writeAll id (edits ++ [e]) = (s.writeAll id edits).write id e := by
      simp [writeAll]
    rw [hwrite, Edit.lastTerm?_concat]
    show ((s.writeAll id edits).cells.insert e.reference ⟨e.term, id⟩).find? r = _
    rw [Table.find?_insert_reference, ih]
    by_cases h : e.reference = r <;> simp [h]

/-- **Cells hold their last writes.** -/
theorem find?_ofEntries (r : Reference) :
    (ofEntries extent es).cells.find? r = CachedCell.last? r es := by
  induction es using List.reverseRecOn with
  | nil => rfl
  | append_singleton es e ih =>
    rw [ofEntries_concat, take, find?_writeAll, ih, CachedCell.last?_concat]

theorem extent_ofEntries : (ofEntries extent es).extent =
    extent.growAll ((es.flatMap LogEntry.edits).map (·.reference)) := by
  induction es using List.reverseRecOn with
  | nil => rfl
  | append_singleton es e ih =>
    have hsingle : [e].flatMap LogEntry.edits = e.edits := by simp
    rw [ofEntries_concat, take, extent_writeAll, ih, List.flatMap_append, hsingle,
      List.map_append, Extent.growAll_append]

theorem mem_keys_ofEntries {r : Reference} :
    r ∈ (ofEntries extent es).cells.keys ↔ r ∈ (es.flatMap LogEntry.edits).map (·.reference) := by
  rw [Table.mem_keys_iff, find?_ofEntries, CachedCell.last?_isSome]
  simp only [List.mem_map, List.mem_flatMap]
  constructor
  · rintro ⟨e, he, edit, hedit, hr⟩
    exact ⟨edit, ⟨e, he, hedit⟩, hr⟩
  · rintro ⟨edit, ⟨e, he, hedit⟩, hr⟩
    exact ⟨e, he, edit, hedit, hr⟩

/-- The extent is enlarged by the cells, whatever the order in which they were written. -/
theorem extent_ofEntries_eq_keys :
    (ofEntries extent es).extent = extent.growAll (ofEntries extent es).cells.keys := by
  rw [extent_ofEntries]
  exact Extent.growAll_congr extent fun r => mem_keys_ofEntries.symm

/-! ### The worksheet of a sheet -/

/-- The changes that write the cells. -/
def edits (s : CachedSheet) : List Edit := s.cells.rows.map fun row => ⟨row.1, row.2.term⟩

theorem distinct_edits (s : CachedSheet) : s.edits.Pairwise (·.reference ≠ ·.reference) :=
  Edit.distinct_ofTable

theorem references_edits (s : CachedSheet) : s.edits.map (·.reference) = s.cells.keys := by
  simp [edits, Table.keys]

theorem lastTerm?_edits (s : CachedSheet) (r : Reference) :
    Edit.lastTerm? r s.edits = (s.cells.find? r).map (·.term) :=
  Edit.lastTerm?_ofTable

theorem worksheet_eq_apply (s : CachedSheet) :
    s.worksheet = ({ extent := s.extent } : Worksheet).apply s.edits := by
  rw [worksheet, Worksheet.apply, edits, List.foldl_map]

/-- **The worksheet of a sheet is made by all changes of its entries in their order.** -/
theorem worksheet_ofEntries : (ofEntries extent es).worksheet =
    ({ extent } : Worksheet).apply (es.flatMap LogEntry.edits) := by
  rw [worksheet_eq_apply]
  refine Worksheet.ext ?_ fun r => ?_
  · rw [Worksheet.extent_apply, references_edits, Worksheet.extent_apply, extent_ofEntries]
    exact Extent.growAll_growAll extent fun r hr => mem_keys_ofEntries.1 hr
  · rw [Worksheet.get?_apply, lastTerm?_edits, find?_ofEntries, CachedCell.map_term_last?,
      Worksheet.get?_apply]
    rfl

end CachedSheet

end SharedSheet
