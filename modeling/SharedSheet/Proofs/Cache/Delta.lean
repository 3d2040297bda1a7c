import Mathlib.Data.List.Sort
import SharedSheet.Proofs.Cache

/-!
# What the delta of a cached sheet says of the log

A cached sheet remembers for every cell the last write and its number, and of a log that it was made
from nothing else is left. This is enough for the changes since any update. A cell was written since
then just when its last write is newer, and the last write is the last one among the newer ones too.
So the delta is the log since the update in compact form: every cell that was written stands there
once, with the last term it was given.

The rows of a table are in the order of their cells, and sorting them by numbers keeps this order
among rows with the same number.

## Main definitions

* `LogEntry.writesSince` — the entries of a log that count for a delta

## Main results

* `CachedCell.last?_eq_some_iff` — the last write of a cell
* `Cache.delta_build` — the delta of a cache that was built from any log
-/

namespace SharedSheet

/-! ### Sorting by numbers -/

theorem foldl_max_eq {α : Type} (f : α → Nat) (xs : List α) :
    xs.foldl (fun n x => max n (f x)) 0 = (xs.map f).max?.getD 0 := by
  rw [← List.foldl_map, List.foldl_max, Nat.zero_max]

section Sorting

variable {α : Type} (f : α → Nat)

theorem decide_le_trans (a b c : α) (hab : decide (f a ≤ f b) = true)
    (hbc : decide (f b ≤ f c) = true) : decide (f a ≤ f c) = true := by
  simp only [decide_eq_true_eq] at *
  omega

theorem decide_le_total (a b : α) : (decide (f a ≤ f b) || decide (f b ≤ f a)) = true := by
  simp only [Bool.or_eq_true, decide_eq_true_eq]
  omega

/-- Sorting by numbers keeps the order of elements with the same number. -/
theorem filter_mergeSort (l : List α) (n : Nat) :
    (l.mergeSort fun a b => f a ≤ f b).filter (f · = n) = l.filter (f · = n) := by
  have hle : (l.filter (f · = n)).Pairwise fun a b => decide (f a ≤ f b) = true :=
    List.pairwise_of_forall_mem_list fun a ha b hb => by
      have ha : f a = n := by simpa using (List.mem_filter.1 ha).2
      have hb : f b = n := by simpa using (List.mem_filter.1 hb).2
      simp [ha, hb]
  have hsub := (List.sublist_mergeSort (decide_le_trans f) (decide_le_total f) hle
    List.filter_sublist).filter (f · = n)
  rw [List.filter_filter] at hsub
  simp only [Bool.and_self] at hsub
  have hperm := (List.mergeSort_perm l fun a b => f a ≤ f b).filter (f · = n)
  exact (hsub.eq_of_length hperm.length_eq.symm).symm

/-- A list in some order is, after sorting by numbers, in the order of the numbers first. -/
theorem pairwise_mergeSort_of_pairwise {R : α → α → Prop} {l : List α} (h : l.Pairwise R) :
    (l.mergeSort fun a b => f a ≤ f b).Pairwise fun a b => f a < f b ∨ f a = f b ∧ R a b := by
  refine List.pairwise_iff_forall_sublist.2 fun {a b} hab => ?_
  have hsorted := List.pairwise_mergeSort (decide_le_trans f) (decide_le_total f) l
  have hle : f a ≤ f b := of_decide_eq_true (List.pairwise_iff_forall_sublist.1 hsorted hab)
  rcases Nat.lt_or_eq_of_le hle with hlt | heq
  · exact .inl hlt
  · refine .inr ⟨heq, ?_⟩
    have hsame := hab.filter (f · = f b)
    rw [filter_mergeSort] at hsame
    simp only [List.filter_cons, heq, decide_true, if_true, List.filter_nil] at hsame
    exact List.pairwise_iff_forall_sublist.1 h (hsame.trans List.filter_sublist)

/-- Lists in such an order are known by their members. -/
theorem eq_of_mem_iff_of_pairwise {g : α → Nat} {l l' : List α}
    (h : l.Pairwise fun a b => f a < f b ∨ f a = f b ∧ g a < g b)
    (h' : l'.Pairwise fun a b => f a < f b ∨ f a = f b ∧ g a < g b)
    (hmem : ∀ a, a ∈ l ↔ a ∈ l') : l = l' := by
  have : Std.Irrefl fun a b => f a < f b ∨ f a = f b ∧ g a < g b := ⟨fun a ha => by omega⟩
  have : Std.Antisymm fun a b => f a < f b ∨ f a = f b ∧ g a < g b :=
    ⟨fun a b hab hba => by omega⟩
  exact h.eq_of_mem_iff h' hmem

end Sorting

/-! ### Last writes -/

/-- Whether an entry counts for the changes of a sheet since an update: it is accepted, one of the
sheet, newer than the update, and its payload can be read. -/
def LogEntry.writesSince (sheet since : Nat) (e : LogEntry) : Bool :=
  e.accepted && e.sheet == sheet && since < e.id && (Payload.parse e.payload).toOption.isSome

theorem LogEntry.eq_of_id_eq {es : List LogEntry} (hascending : es.Pairwise (·.id < ·.id))
    {e f : LogEntry} (he : e ∈ es) (hf : f ∈ es) (hid : e.id = f.id) : e = f := by
  have : Std.Symm fun e f : LogEntry => e.id ≠ f.id := ⟨fun _ _ => Ne.symm⟩
  exact Classical.byContradiction fun hne =>
    (hascending.imp Nat.ne_of_lt).forall he hf hne hid

/-- **The last write of a cell** is made by the entry with the greatest number that names the cell,
and gives it the last term that this entry gives it. -/
theorem CachedCell.last?_eq_some_iff {es : List LogEntry} (hascending : es.Pairwise (·.id < ·.id))
    {r : Reference} {c : CachedCell} : last? r es = some c ↔
      ∃ e ∈ es, e.id = c.updateId ∧ Edit.lastTerm? r e.edits = some c.term ∧
        ∀ f ∈ es, (∃ edit ∈ f.edits, edit.reference = r) → f.id ≤ e.id := by
  refine ⟨exists_of_last? hascending, ?_⟩
  rintro ⟨e, he, hid, hterm, hmax⟩
  have htouch : ∃ edit ∈ e.edits, edit.reference = r :=
    Edit.lastTerm?_isSome.1 (by rw [hterm]; rfl)
  obtain ⟨c', hc'⟩ := Option.isSome_iff_exists.1 (last?_isSome.2 ⟨e, he, htouch⟩)
  obtain ⟨e', he', hid', hterm', hmax'⟩ := exists_of_last? hascending hc'
  have htouch' : ∃ edit ∈ e'.edits, edit.reference = r :=
    Edit.lastTerm?_isSome.1 (by rw [hterm']; rfl)
  obtain rfl : e = e' := LogEntry.eq_of_id_eq hascending he he'
    (Nat.le_antisymm (hmax' e he htouch) (hmax e' he' htouch'))
  obtain ⟨term, updateId⟩ := c
  obtain ⟨term', updateId'⟩ := c'
  simp_all

/-! ### Deltas -/

namespace CachedSheet

variable {s : CachedSheet} {since : Nat}

theorem mem_writtenSince {r : Reference} {c : CachedCell} :
    (r, c) ∈ s.writtenSince since ↔ s.cells.find? r = some c ∧ since < c.updateId := by
  simp only [writtenSince, List.mem_mergeSort, List.mem_filter, Table.mem_rows_iff,
    decide_eq_true_eq]

/-- The cells are in the order of their updates, and those of one update in their own order. -/
theorem pairwise_writtenSince (s : CachedSheet) (since : Nat) :
    (s.writtenSince since).Pairwise fun a b => a.2.updateId < b.2.updateId ∨
      a.2.updateId = b.2.updateId ∧ rank a.1 < rank b.1 :=
  pairwise_mergeSort_of_pairwise (·.2.updateId) (s.cells.sorted.filter _)

theorem nodup_writtenSince (s : CachedSheet) (since : Nat) :
    ((s.writtenSince since).map (·.1)).Nodup := by
  rw [writtenSince, ((List.mergeSort_perm _ _).map _).nodup_iff]
  exact List.pairwise_map.2 ((s.cells.sorted.filter _).imp fun hlt heq =>
    Nat.ne_of_lt hlt (congrArg rank heq))

end CachedSheet

namespace Cache

/-- A sheet that was registered holds what the entries for it make. -/
theorem sheet_build (extent : Extent) {ids : List Nat} {es : List LogEntry}
    (hascending : es.Pairwise (·.id < ·.id)) {id : Nat} (hid : id ∈ ids) :
    ((ids.foldl register { defaultExtent := extent }).build es).1.sheet id =
      .ok (.ofEntries extent (es.filter (LogEntry.writesSince id 0))) := by
  obtain ⟨-, hfolded, hfind⟩ := @foldl_register { defaultExtent := extent } ids
  have hsheet := hfind id
  rw [if_pos hid] at hsheet
  have hentries : (es.filter fun e =>
      (ids.foldl register { defaultExtent := extent }).lastFolded < e.id &&
        (ids.foldl register { defaultExtent := extent }).canFold e && e.sheet == id) =
      es.filter (LogEntry.writesSince id 0) := List.filter_congr fun e _ => by
    rw [hfolded, LogEntry.writesSince, canFold]
    by_cases he : e.sheet = id
    · subst he
      simp [Table.contains, hsheet, Bool.and_comm, Bool.and_assoc, Bool.and_left_comm]
    · have hne : (e.sheet == id) = false := beq_false_of_ne he
      simp [hne]
  rw [sheet, find?_build hascending, hsheet, hentries]
  rfl

/-- **The delta of a built cache is the log in compact form.** A new cache with any sheets
registered goes through a log of any entries in the order of their numbers. Then the delta of each
of its sheets since any update writes the cells that entries for the sheet named since then, every
cell once, with the last term that the last such entry gave it. The cells are in the order of these
last entries, and those of one entry in their own order. The number of the delta is the greatest one
of these entries, zero if there are none. -/
theorem delta_build (extent : Extent) {ids : List Nat} {es : List LogEntry}
    (hascending : es.Pairwise (·.id < ·.id)) {sheet : Nat} (hsheet : sheet ∈ ids) (since : Nat) :
    ∃ (s : CachedSheet) (rows : List (Reference × CachedCell)),
      ((ids.foldl register { defaultExtent := extent }).build es).1.sheet sheet = .ok s ∧
      s.delta since = ⟨Payload.render (rows.map fun row => ⟨row.1, row.2.term⟩),
        (rows.map (·.2.updateId)).max?.getD 0⟩ ∧
      (rows.Pairwise fun a b => a.2.updateId < b.2.updateId ∨
        a.2.updateId = b.2.updateId ∧ rank a.1 < rank b.1) ∧
      (rows.map (·.1)).Nodup ∧
      ∀ r cell, (r, cell) ∈ rows ↔ ∃ e ∈ es.filter (LogEntry.writesSince sheet since),
        e.id = cell.updateId ∧ Edit.lastTerm? r e.edits = some cell.term ∧
        ∀ f ∈ es.filter (LogEntry.writesSince sheet since),
          (∃ edit ∈ f.edits, edit.reference = r) → f.id ≤ e.id := by
  let s := CachedSheet.ofEntries extent (es.filter (LogEntry.writesSince sheet 0))
  refine ⟨s, s.writtenSince since, sheet_build extent hascending hsheet, ?_,
    s.pairwise_writtenSince since, s.nodup_writtenSince since, fun r cell => ?_⟩
  · rw [CachedSheet.delta, foldl_max_eq]
  · have hmem : ∀ e, e ∈ es.filter (LogEntry.writesSince sheet since) ↔
        e ∈ es.filter (LogEntry.writesSince sheet 0) ∧ since < e.id := fun e => by
      simp only [List.mem_filter, LogEntry.writesSince, Bool.and_eq_true, decide_eq_true_eq]
      grind
    rw [CachedSheet.mem_writtenSince, CachedSheet.find?_ofEntries,
      CachedCell.last?_eq_some_iff (hascending.filter _)]
    constructor
    · rintro ⟨⟨e, he, hid, hterm, hmax⟩, hnew⟩
      exact ⟨e, (hmem e).2 ⟨he, hid ▸ hnew⟩, hid, hterm, fun f hf => hmax f ((hmem f).1 hf).1⟩
    · rintro ⟨e, he, hid, hterm, hmax⟩
      obtain ⟨he, hnew⟩ := (hmem e).1 he
      refine ⟨⟨e, he, hid, hterm, fun f hf htouch => ?_⟩, hid ▸ hnew⟩
      -- An entry that is not newer than the update is older than one that is.
      by_cases hf' : since < f.id
      · exact hmax f ((hmem f).2 ⟨hf, hf'⟩) htouch
      · omega

/-- A log with an overwritten cell, a proposal, a payload that cannot be read and a sheet that is
not known. -/
def compactedLog : List LogEntry :=
  [⟨⟨1, "ana", "$A1 x\n$B1 y\n", true, .epoch⟩, 1⟩, ⟨⟨1, "ben", "$A1 z\n", false, .epoch⟩, 2⟩,
    ⟨⟨1, "ana", "x to A1", true, .epoch⟩, 3⟩, ⟨⟨7, "ana", "$A1 x\n", true, .epoch⟩, 4⟩,
    ⟨⟨1, "ana", "$C1 u\n$A1 v\n$A1 w\n", true, .epoch⟩, 5⟩]

theorem delta_build_compactedLog :
    compactedLog.Pairwise (·.id < ·.id) ∧ 1 ∈ [1, 2] ∧
      (compactedLog.filter (LogEntry.writesSince 1 0)).map (·.id) = [1, 5] ∧
      ∃ s, (([1, 2].foldl register { defaultExtent := ⟨10, 10⟩ }).build compactedLog).1.sheet 1 =
        .ok s ∧ s.delta 1 = ⟨"$A1 w\n$C1 u\n", 5⟩ := by
  have hascending : compactedLog.Pairwise (·.id < ·.id) := by decide
  obtain ⟨s, rows, hs, hdelta, horder, -, hmem⟩ :=
    delta_build ⟨10, 10⟩ hascending (by decide : 1 ∈ [1, 2]) 1
  have hentries : compactedLog.filter (LogEntry.writesSince 1 1) =
      [⟨⟨1, "ana", "$C1 u\n$A1 v\n$A1 w\n", true, .epoch⟩, 5⟩] := by decide +kernel
  have hedits : LogEntry.edits ⟨⟨1, "ana", "$C1 u\n$A1 v\n$A1 w\n", true, .epoch⟩, 5⟩ =
      [⟨⟨3, 1⟩, "u"⟩, ⟨⟨1, 1⟩, "v"⟩, ⟨⟨1, 1⟩, "w"⟩] := by decide +kernel
  have hlast : ∀ r, Edit.lastTerm? r [⟨⟨3, 1⟩, "u"⟩, ⟨⟨1, 1⟩, "v"⟩, ⟨⟨1, 1⟩, "w"⟩] =
      if r = ⟨1, 1⟩ then some "w" else if r = ⟨3, 1⟩ then some "u" else none := fun r => by
    by_cases ha : r = ⟨1, 1⟩
    · simp [ha, Edit.lastTerm?]
    · by_cases hc : r = ⟨3, 1⟩ <;> simp [ha, hc, Edit.lastTerm?, eq_comm]
  have hrows : rows = [(⟨1, 1⟩, ⟨"w", 5⟩), (⟨3, 1⟩, ⟨"u", 5⟩)] := by
    refine eq_of_mem_iff_of_pairwise (·.2.updateId) horder (by decide) ?_
    rintro ⟨r, term, n⟩
    rw [hmem, hentries]
    simp only [List.mem_singleton, exists_eq_left, forall_eq, hedits, hlast]
    grind
  rw [hrows] at hdelta
  exact ⟨hascending, by decide, by decide +kernel, s, hs, hdelta.trans (by decide +kernel)⟩

end Cache

end SharedSheet
