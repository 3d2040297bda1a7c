import SharedSheet.Proofs.Cache.Build

/-!
# What a cache holds

A cache is right for a book if every sheet of it is what the accepted entries of that sheet make,
`CachedSheet.ofEntries`. It is kept right in three ways, one entry at a time by publishing, all at
once by a build from the log, and by bringing an old cache up to date.

The last is the general case: a build from the log is the same with an empty cache to start from. An
old cache need not be right for the book any more, since sheets come and go after it is saved.
`Cache.Recalls` is what is left of being right: for the sheets that are still there it knows the
entries up to the greatest number that it has folded. Sheets that were made later are not in it, so
no number of it may belong to a sheet that is still to be made.

## Main definitions

* `Cache.Mirrors` — a cache that is right for a book
* `Cache.Recalls` — a cache that was right for the book once

## Main results

* `Cache.Recalls.broughtUpTo` — a cache that recalls a book is brought up to mirror it
* `Cache.Mirrors.update` and its siblings — what operations do to a cache that is right
-/

namespace SharedSheet

/-! ### Right caches -/

namespace Cache

variable {c : Cache} {extent : Extent} {b : Book}

/-- A cache that is right for a book: it has the book's sheets and has folded all their accepted
entries. -/
structure Mirrors (c : Cache) (extent : Extent) (b : Book) : Prop where
  defaultExtent : c.defaultExtent = extent
  find? : ∀ id, c.sheets.find? id =
    if b.registry.hasSheet id then some (.ofEntries extent (b.acceptedOf id)) else none
  folded : ∀ e ∈ b.entries, e.accepted = true → e.id ≤ c.lastFolded
  lastFolded_le : c.lastFolded ≤ b.registry.lastUpdateId

/-- A cache that was right for the book once: what it knows of the sheets that are there is what
their entries up to its last number make. -/
structure Recalls (c : Cache) (extent : Extent) (b : Book) : Prop where
  defaultExtent : c.defaultExtent = extent
  /-- No sheet that is still to be made is known. -/
  known : ∀ id, c.sheets.contains id = true → id ≤ b.registry.lastSheetId
  find? : ∀ id, b.registry.hasSheet id = true → (c.sheets.find? id).getD { extent } =
    .ofEntries extent ((b.acceptedOf id).filter (·.id ≤ c.lastFolded))
  lastFolded_le : c.lastFolded ≤ b.registry.lastUpdateId

/-! ### Bringing a cache up to date -/

theorem rank_nat (n : Nat) : rank n = n := rfl

theorem find?_register (id id' : Nat) : (c.register id).sheets.find? id' =
    if id' = id then some ((c.sheets.find? id).getD { extent := c.defaultExtent })
    else c.sheets.find? id' := by
  unfold register Table.contains
  cases hfind : c.sheets.find? id with
  | none => simp [Table.find?_insert, rank_nat]
  | some s =>
    by_cases h : id' = id
    · simp [h, hfind]
    · simp [h]

theorem defaultExtent_register (id : Nat) : (c.register id).defaultExtent = c.defaultExtent := by
  unfold register
  split <;> rfl

theorem lastFolded_register (id : Nat) : (c.register id).lastFolded = c.lastFolded := by
  unfold register
  split <;> rfl

theorem foldl_register (ids : List Nat) :
    (ids.foldl register c).defaultExtent = c.defaultExtent ∧
      (ids.foldl register c).lastFolded = c.lastFolded ∧
      ∀ id, (ids.foldl register c).sheets.find? id =
        if id ∈ ids then some ((c.sheets.find? id).getD { extent := c.defaultExtent })
        else c.sheets.find? id := by
  induction ids generalizing c with
  | nil => simp
  | cons first ids ih =>
    obtain ⟨hextent, hfolded, hfind⟩ := @ih (c.register first)
    rw [defaultExtent_register] at hextent hfind
    rw [lastFolded_register] at hfolded
    refine ⟨hextent, hfolded, fun id => ?_⟩
    rw [List.foldl_cons, hfind, find?_register]
    by_cases hid : id = first
    · subst hid
      simp
    · simp [hid]

/-- The cache with the sheets of a book, before it takes in entries. -/
def settled (c : Cache) (b : Book) : Cache :=
  b.registry.sheets.foldl (fun c s => c.register s.id)
    { c with sheets := c.sheets.filter fun id _ => b.registry.hasSheet id }

theorem settled_eq (c : Cache) (b : Book) : c.settled b =
    (b.registry.sheets.map (·.id)).foldl register
      { c with sheets := c.sheets.filter fun id _ => b.registry.hasSheet id } := by
  rw [settled, List.foldl_map]

theorem defaultExtent_settled (c : Cache) (b : Book) :
    (c.settled b).defaultExtent = c.defaultExtent := by
  rw [settled_eq]
  exact (foldl_register _).1

theorem lastFolded_settled (c : Cache) (b : Book) : (c.settled b).lastFolded = c.lastFolded := by
  rw [settled_eq]
  exact (foldl_register _).2.1

theorem find?_settled (c : Cache) (b : Book) (id : Nat) :
    (c.settled b).sheets.find? id = if b.registry.hasSheet id then
      some ((c.sheets.find? id).getD { extent := c.defaultExtent }) else none := by
  have hsheet : id ∈ b.registry.sheets.map (·.id) ↔ b.registry.hasSheet id = true :=
    List.mem_map.trans Registry.hasSheet_iff.symm
  rw [settled_eq, (foldl_register _).2.2, Table.find?_filter]
  simp only [hsheet]
  cases hfind : c.sheets.find? id <;> cases hid : b.registry.hasSheet id <;>
    simp [Option.filter]

/-- Entries of a sound book can all be folded. -/
theorem canFold_settled (hb : b.Sound) {e : LogEntry} (he : e ∈ b.entries)
    (haccepted : e.accepted = true) : (c.settled b).canFold e = true := by
  rw [canFold, haccepted, (hb.readable e he).1, Table.contains, find?_settled,
    if_pos (hb.homed e he)]
  rfl

/-- **A cache that recalls a book is brought up to mirror it.** -/
theorem Recalls.broughtUpTo (h : c.Recalls extent b) (hb : b.Sound) :
    (c.broughtUpTo b).Mirrors extent b := by
  have hbuild : c.broughtUpTo b = ((c.settled b).build (b.acceptedAfter c.lastFolded)).1 := by
    rw [← lastFolded_settled c b]
    rfl
  have hascending : (b.acceptedAfter c.lastFolded).Pairwise (·.id < ·.id) := hb.ascending.filter _
  have hmem : ∀ e, e ∈ b.acceptedAfter c.lastFolded ↔
      e ∈ b.entries ∧ e.accepted = true ∧ c.lastFolded < e.id := fun e => by
    simp [Book.acceptedAfter]
  have hlast : ∀ m, (c.broughtUpTo b).lastFolded < m ↔
      c.lastFolded < m ∧ ∀ e ∈ b.acceptedAfter c.lastFolded, e.id < m := fun m => by
    rw [hbuild, lastFolded_build_lt_iff, lastFolded_settled]
    refine and_congr_right fun _ => forall₂_congr fun e he => ?_
    obtain ⟨he, haccepted, -⟩ := (hmem e).1 he
    exact forall_prop_of_true (canFold_settled hb he haccepted)
  constructor
  · rw [hbuild, defaultExtent_build, defaultExtent_settled, h.defaultExtent]
  · intro id
    rw [hbuild, find?_build hascending, find?_settled]
    split
    · rename_i hid
      -- The entries that the cache knew and those that it takes in now are all entries.
      have hsplit := LogEntry.filter_le_append_filter_lt (hb.ascending_acceptedOf id) c.lastFolded
      have hnew : ((b.acceptedAfter c.lastFolded).filter fun e =>
          (c.settled b).lastFolded < e.id && (c.settled b).canFold e && e.sheet == id) =
          (b.acceptedOf id).filter (c.lastFolded < ·.id) := by
        simp only [Book.acceptedAfter, Book.acceptedOf, List.filter_filter, lastFolded_settled]
        refine List.filter_congr fun e he => ?_
        cases haccepted : e.accepted with
        | false => simp
        | true => simp [canFold_settled hb he haccepted, Bool.and_comm]
      rw [Option.map_some, h.defaultExtent, h.find? id hid, hnew, ← CachedSheet.ofEntries_append]
      exact congrArg some (congrArg _ hsplit)
    · rfl
  · intro e he haccepted
    obtain ⟨hold, hnew⟩ := (hlast _).1 (Nat.lt_succ_self _)
    by_cases hid : e.id ≤ c.lastFolded
    · omega
    · exact Nat.le_of_lt_succ (hnew e ((hmem e).2 ⟨he, haccepted, Nat.lt_of_not_le hid⟩))
  · refine Nat.le_of_lt_succ ((hlast _).2 ⟨Nat.lt_succ_of_le h.lastFolded_le, fun e he => ?_⟩)
    exact Nat.lt_succ_of_le (hb.id_le e ((hmem e).1 he).1)

/-- The empty cache recalls every book. -/
theorem recalls_empty (hb : b.Sound) : ({ defaultExtent := extent } : Cache).Recalls extent b where
  defaultExtent := rfl
  known id h := by simp [Table.contains, Table.find?, Table.search, EmptyCollection.emptyCollection,
    Table.empty] at h
  find? id _ := by
    have hnone : (b.acceptedOf id).filter (·.id ≤ 0) = [] := List.filter_eq_nil_iff.2 fun e he => by
      have := hb.id_pos e (Book.mem_acceptedOf.1 he).1
      simp only [decide_eq_true_eq]
      omega
    rw [hnone]
    rfl
  lastFolded_le := Nat.zero_le _

/-! ### What operations do to right caches -/

namespace Mirrors

/-- A sheet of the book is known. -/
theorem sheet (h : c.Mirrors extent b) {id : Nat} (hid : b.registry.hasSheet id = true) :
    c.sheet id = .ok (.ofEntries extent (b.acceptedOf id)) := by
  simp [Cache.sheet, h.find?, hid]

theorem recalls (h : c.Mirrors extent b) (hb : b.Sound) : c.Recalls extent b where
  defaultExtent := h.defaultExtent
  known id hid := by
    rw [Table.contains, h.find?] at hid
    split at hid
    · exact hb.registry.le_of_hasSheet (by assumption)
    · simp at hid
  find? id hid := by
    have hall : (b.acceptedOf id).filter (·.id ≤ c.lastFolded) = b.acceptedOf id :=
      List.filter_eq_self.2 fun e he => by
        obtain ⟨he, haccepted, -⟩ := Book.mem_acceptedOf.1 he
        simpa using h.folded e he haccepted
    rw [h.find?, if_pos hid, hall]
    rfl
  lastFolded_le := h.lastFolded_le

/-- An accepted entry is folded in. -/
theorem update (h : c.Mirrors extent b) {d : Draft} (haccepted : d.accepted = true)
    (hsheet : b.registry.hasSheet d.sheet = true) :
    ∃ c', c.update d.sheet (Payload.edits d.payload) (b.nextEntry d).id = .ok c' ∧
      c'.Mirrors extent (b.append d).2 := by
  refine ⟨{ c with
      sheets := c.sheets.insert d.sheet ((CachedSheet.ofEntries extent
        (b.acceptedOf d.sheet)).writeAll (b.nextEntry d).id (Payload.edits d.payload))
      lastFolded := max c.lastFolded (b.nextEntry d).id },
    by simp only [Cache.update, h.sheet hsheet], h.defaultExtent, fun id => ?_, ?_, ?_⟩
  · have hsame : (b.append d).2.registry.hasSheet id = b.registry.hasSheet id := rfl
    rw [Table.find?_insert, h.find?, hsame, Book.acceptedOf_append]
    by_cases hid : id = d.sheet
    · subst hid
      rw [if_pos rfl, if_pos hsheet, if_pos ⟨haccepted, rfl⟩, CachedSheet.ofEntries_concat]
      rfl
    · simp [rank_nat, hid, Ne.symm hid]
  · refine Book.forall_mem_append (fun e he hacc => ?_) fun _ => Nat.le_max_right _ _
    exact Nat.le_trans (h.folded e he hacc) (Nat.le_max_left _ _)
  · show max c.lastFolded (b.nextEntry d).id ≤ max b.registry.lastUpdateId (b.nextEntry d).id
    have := h.lastFolded_le
    omega

/-- A proposal changes nothing. -/
theorem propose (h : c.Mirrors extent b) {d : Draft} (haccepted : d.accepted = false) :
    c.Mirrors extent (b.append d).2 where
  defaultExtent := h.defaultExtent
  find? id := by
    have : ¬ (d.accepted = true ∧ d.sheet = id) := fun hd => by simp [haccepted] at hd
    rw [h.find?, Book.acceptedOf_append, if_neg this, List.append_nil]
    rfl
  folded := Book.forall_mem_append h.folded fun hacc =>
    absurd (haccepted.symm.trans hacc) (by simp)
  lastFolded_le := Nat.le_trans h.lastFolded_le (Nat.le_max_left _ _)

theorem registerPublisher (h : c.Mirrors extent b) (p : String) :
    c.Mirrors extent (b.registerPublisher p).2 := by
  unfold Book.registerPublisher
  split
  · exact h
  · exact ⟨h.defaultExtent, h.find?, h.folded, h.lastFolded_le⟩

/-- A sheet that is made is registered. -/
theorem register (h : c.Mirrors extent b) (hb : b.Sound) (a : SheetAddress) (v : Visibility) :
    (c.register (b.registry.lastSheetId + 1)).Mirrors extent (b.insertSheet a v).2 where
  defaultExtent := (defaultExtent_register _).trans h.defaultExtent
  find? id := by
    have hfree : b.registry.hasSheet (b.registry.lastSheetId + 1) = false :=
      Bool.eq_false_iff.2 fun hid => Nat.not_succ_le_self _ (hb.registry.le_of_hasSheet hid)
    have hsheet : (b.insertSheet a v).2.registry.hasSheet id =
        (b.registry.hasSheet id || b.registry.lastSheetId + 1 == id) :=
      Registry.hasSheet_addSheet ..
    rw [find?_register, h.find?, h.find?, hsheet, Book.acceptedOf_insertSheet, h.defaultExtent]
    by_cases hid : id = b.registry.lastSheetId + 1
    · subst hid
      simp [hfree, hb.acceptedOf_eq_nil hfree, CachedSheet.ofEntries]
    · simp [hid, Ne.symm hid]
  folded e he haccepted := by
    rw [lastFolded_register]
    exact h.folded e he haccepted
  lastFolded_le := by
    rw [lastFolded_register]
    exact h.lastFolded_le

/-- A sheet that is deleted is forgotten. -/
theorem remove (h : c.Mirrors extent b) (id : Nat) :
    (c.remove id).Mirrors extent (b.deleteSheet id).2 where
  defaultExtent := h.defaultExtent
  find? id' := by
    have hsheet : (b.deleteSheet id).2.registry.hasSheet id' =
        (b.registry.hasSheet id' && id' != id) := Registry.hasSheet_removeSheet ..
    show (c.sheets.erase id).find? id' = _
    rw [Table.find?_erase, h.find?, hsheet]
    by_cases hid : id' = id
    · simp [hid]
    · rw [Book.acceptedOf_deleteSheet hid]
      simp [rank_nat, hid]
  folded e he := h.folded e (List.mem_filter.1 he).1
  lastFolded_le := h.lastFolded_le

end Mirrors

namespace Recalls

theorem append (h : c.Recalls extent b) (d : Draft) : c.Recalls extent (b.append d).2 where
  defaultExtent := h.defaultExtent
  known := h.known
  find? id hid := by
    have hnew : ¬ (b.nextEntry d).id ≤ c.lastFolded :=
      Nat.not_le_of_lt (Nat.lt_succ_of_le h.lastFolded_le)
    rw [h.find? id hid, Book.acceptedOf_append, List.filter_append]
    split <;> simp [hnew]
  lastFolded_le := Nat.le_trans h.lastFolded_le (Nat.le_max_left _ _)

theorem registerPublisher (h : c.Recalls extent b) (p : String) :
    c.Recalls extent (b.registerPublisher p).2 := by
  unfold Book.registerPublisher
  split
  · exact h
  · exact ⟨h.defaultExtent, h.known, h.find?, h.lastFolded_le⟩

theorem insertSheet (h : c.Recalls extent b) (hb : b.Sound) (a : SheetAddress) (v : Visibility) :
    c.Recalls extent (b.insertSheet a v).2 where
  defaultExtent := h.defaultExtent
  known id hid := Nat.le_succ_of_le (h.known id hid)
  find? id hid := by
    rw [Book.acceptedOf_insertSheet]
    by_cases hold : b.registry.hasSheet id = true
    · exact h.find? id hold
    · -- The sheet is new: neither the cache nor the log knows of it.
      have hid : b.registry.lastSheetId + 1 = id := by
        have hsheet := Registry.hasSheet_addSheet (g := b.registry) a v id
        rw [show (b.registry.addSheet a v).hasSheet id = true from hid] at hsheet
        simpa [hold] using hsheet.symm
      have hunknown : c.sheets.find? id = none := by
        rw [← Option.not_isSome_iff_eq_none]
        intro hsome
        have := h.known id hsome
        omega
      rw [hunknown, hb.acceptedOf_eq_nil (Bool.eq_false_iff.2 hold)]
      rfl
  lastFolded_le := h.lastFolded_le

theorem deleteSheet (h : c.Recalls extent b) (id : Nat) :
    c.Recalls extent (b.deleteSheet id).2 where
  defaultExtent := h.defaultExtent
  known := h.known
  find? id' hid' := by
    have hsheet : (b.deleteSheet id).2.registry.hasSheet id' =
        (b.registry.hasSheet id' && id' != id) := Registry.hasSheet_removeSheet ..
    rw [hsheet, Bool.and_eq_true, bne_iff_ne] at hid'
    rw [h.find? id' hid'.1, Book.acceptedOf_deleteSheet hid'.2]
  lastFolded_le := h.lastFolded_le

end Recalls

end Cache

end SharedSheet
