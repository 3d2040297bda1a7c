import Mathlib.Data.List.Induction
import Mathlib.Data.List.Pairwise
import SharedSheet.Worksheet.Basic

/-!
# What changes add up to

A worksheet that changes were made in is a function of one thing, the last term that the changes
give each cell. Which cells they reach is part of it: a cell that is cleared last has the empty term
as its last term, and a cell that they never name has none. So two lists of changes with the same
last terms make the same worksheet, extent included, and everything about orders of changes,
repeated changes and changes that were left out is a fact about last terms.

## Main definitions

* `Edit.lastTerm?` — the last term that changes give a cell
* `Edit.ofTable` — the changes that write the rows of a table
* `Extent.growAll` — an extent enlarged by many cells

## Main results

* `Worksheet.get?_apply`, `Worksheet.extent_apply` — a worksheet after changes
* `Worksheet.apply_congr` — changes with the same last terms make the same worksheet
-/

namespace SharedSheet

/-! ### Last terms -/

namespace Edit

/-- The last term that changes give a cell. -/
def lastTerm? (r : Reference) (es : List Edit) : Option String :=
  ((es.filter (·.reference = r)).getLast?).map (·.term)

variable {r : Reference} {es fs : List Edit}

@[simp] theorem lastTerm?_nil : lastTerm? r [] = none := rfl

theorem lastTerm?_append : lastTerm? r (es ++ fs) = (lastTerm? r fs).or (lastTerm? r es) := by
  rw [lastTerm?, List.filter_append, List.getLast?_append, lastTerm?, lastTerm?]
  cases (fs.filter (·.reference = r)).getLast? <;> rfl

theorem lastTerm?_concat (e : Edit) :
    lastTerm? r (es ++ [e]) = if e.reference = r then some e.term else lastTerm? r es := by
  rw [lastTerm?_append]
  by_cases h : e.reference = r <;> simp [lastTerm?, h]

theorem lastTerm?_isSome : (lastTerm? r es).isSome = true ↔ ∃ e ∈ es, e.reference = r := by
  rw [lastTerm?, Option.isSome_map, List.getLast?_isSome]
  constructor
  · intro hne
    obtain ⟨e, he⟩ := List.exists_mem_of_ne_nil _ hne
    exact ⟨e, (List.mem_filter.1 he).1, of_decide_eq_true (List.mem_filter.1 he).2⟩
  · rintro ⟨e, he, hr⟩
    exact List.ne_nil_of_mem (List.mem_filter.2 ⟨he, decide_eq_true hr⟩)

/-- Among changes of different cells the order is of no account. -/
theorem lastTerm?_of_mem (hdistinct : es.Pairwise (·.reference ≠ ·.reference)) {e : Edit}
    (he : e ∈ es) : lastTerm? e.reference es = some e.term := by
  have : Std.Symm fun e f : Edit => e.reference ≠ f.reference := ⟨fun _ _ => Ne.symm⟩
  cases hlast : (es.filter (·.reference = e.reference)).getLast? with
  | none =>
    rw [List.getLast?_eq_none_iff] at hlast
    exact absurd he (by simpa using List.filter_eq_nil_iff.1 hlast e)
  | some f =>
    obtain ⟨hf, href⟩ := List.mem_filter.1 (List.mem_of_getLast? hlast)
    have : f = e := Classical.byContradiction fun hne =>
      hdistinct.forall hf he hne (of_decide_eq_true href)
    rw [lastTerm?, hlast, this]
    rfl

theorem mem_of_lastTerm? {term : String} (h : lastTerm? r es = some term) : ⟨r, term⟩ ∈ es := by
  obtain ⟨e, he, rfl⟩ := Option.map_eq_some_iff.1 h
  obtain ⟨hmem, hr⟩ := List.mem_filter.1 (List.mem_of_getLast? he)
  obtain rfl := of_decide_eq_true hr
  exact hmem

theorem lastTerm?_perm (hperm : es.Perm fs) (hdistinct : es.Pairwise (·.reference ≠ ·.reference)) :
    lastTerm? r es = lastTerm? r fs := by
  have hdistinct' := hperm.pairwise hdistinct fun h => Ne.symm h
  cases hlast : lastTerm? r es with
  | some term => exact (lastTerm?_of_mem hdistinct' (hperm.mem_iff.1 (mem_of_lastTerm? hlast))).symm
  | none =>
    rw [eq_comm, ← Option.not_isSome_iff_eq_none, lastTerm?_isSome]
    rw [← Option.not_isSome_iff_eq_none, lastTerm?_isSome] at hlast
    simpa only [hperm.mem_iff] using hlast

/-! ### The rows of a table as changes -/

variable {α : Type}

/-- The changes that write the rows of a table. -/
def ofTable (term : α → String) (t : Table Reference α) : List Edit :=
  t.rows.map fun row => ⟨row.1, term row.2⟩

variable {term : α → String} {t : Table Reference α}

theorem mem_ofTable_iff {e : Edit} :
    e ∈ ofTable term t ↔ ∃ value, t.find? e.reference = some value ∧ term value = e.term := by
  obtain ⟨r, s⟩ := e
  simp only [ofTable, List.mem_map, Prod.exists, Edit.mk.injEq, Table.mem_rows_iff]
  constructor
  · rintro ⟨r, value, hfind, rfl, rfl⟩
    exact ⟨value, hfind, rfl⟩
  · rintro ⟨value, hfind, rfl⟩
    exact ⟨r, value, hfind, rfl, rfl⟩

theorem distinct_ofTable : (ofTable term t).Pairwise (·.reference ≠ ·.reference) :=
  List.pairwise_map.2 (t.sorted.imp fun hlt heq => Nat.ne_of_lt hlt (congrArg rank heq))

/-- They give each cell what the table holds of it. -/
theorem lastTerm?_ofTable : lastTerm? r (ofTable term t) = (t.find? r).map term := by
  cases hfind : t.find? r with
  | some value =>
    have hmem : ⟨r, term value⟩ ∈ ofTable term t := mem_ofTable_iff.2 ⟨value, hfind, rfl⟩
    exact lastTerm?_of_mem distinct_ofTable hmem
  | none =>
    rw [Option.map_none, ← Option.not_isSome_iff_eq_none, lastTerm?_isSome]
    rintro ⟨e, he, rfl⟩
    obtain ⟨value, hvalue, -⟩ := mem_ofTable_iff.1 he
    rw [hfind] at hvalue
    simp at hvalue

end Edit

/-! ### Extents -/

namespace Extent

/-- Whether an extent lies inside another one. -/
def Within (e f : Extent) : Prop := e.rows ≤ f.rows ∧ e.cols ≤ f.cols

theorem Within.refl (e : Extent) : e.Within e := ⟨UInt32.le_refl _, UInt32.le_refl _⟩

theorem Within.antisymm {e f : Extent} (h : e.Within f) (h' : f.Within e) : e = f := by
  obtain ⟨rows, cols⟩ := e
  obtain ⟨rows', cols'⟩ := f
  rw [Extent.mk.injEq]
  exact ⟨UInt32.le_antisymm h.1 h'.1, UInt32.le_antisymm h.2 h'.2⟩

/-- The extent enlarged by a cell is the least one that holds both. -/
theorem grow_within_iff {e f : Extent} {r : Reference} :
    (e.grow r).Within f ↔ e.Within f ∧ f.contains r = true := by
  simp only [Within, grow, contains, Bool.and_eq_true, decide_eq_true_eq, UInt32.lt_iff_toNat_lt,
    UInt32.le_iff_toNat_le]
  constructor
  · rintro ⟨hrows, hcols⟩
    split at hrows <;> split at hcols <;> omega
  · rintro ⟨⟨hrows, hcols⟩, hrow, hcol⟩
    split <;> split <;> omega

/-- The least extent that holds another one and cells. -/
def growAll (e : Extent) (rs : List Reference) : Extent := rs.foldl grow e

theorem growAll_append (e : Extent) (rs qs : List Reference) :
    e.growAll (rs ++ qs) = (e.growAll rs).growAll qs := by
  simp [growAll]

theorem growAll_within_iff {e f : Extent} {rs : List Reference} :
    (e.growAll rs).Within f ↔ e.Within f ∧ ∀ r ∈ rs, f.contains r = true := by
  induction rs generalizing e with
  | nil => simp [growAll]
  | cons r rs ih =>
    show ((e.grow r).growAll rs).Within f ↔ _
    rw [ih, grow_within_iff, List.forall_mem_cons, and_assoc]

/-- **Which cells an extent is enlarged by is all that counts**, not in which order or how often. -/
theorem growAll_congr (e : Extent) {rs qs : List Reference} (h : ∀ r, r ∈ rs ↔ r ∈ qs) :
    e.growAll rs = e.growAll qs := by
  have hwithin : ∀ f, (e.growAll rs).Within f ↔ (e.growAll qs).Within f := fun f => by
    simp only [growAll_within_iff, h]
  exact Within.antisymm ((hwithin _).2 (.refl _)) ((hwithin _).1 (.refl _))

/-- An extent that holds the cells is not enlarged by them. -/
theorem growAll_growAll (e : Extent) {rs qs : List Reference} (h : ∀ r ∈ qs, r ∈ rs) :
    (e.growAll rs).growAll qs = e.growAll rs := by
  rw [← growAll_append]
  exact growAll_congr e fun r => by simpa using h r

end Extent

/-! ### Worksheets after changes -/

namespace Worksheet

/-- Worksheets with the same cells and the same extent are equal. -/
theorem ext {w v : Worksheet} (hextent : w.extent = v.extent) (h : ∀ r, w.get? r = v.get? r) :
    w = v := by
  obtain ⟨extent, terms⟩ := w
  obtain ⟨extent', terms'⟩ := v
  have : terms = terms' := Table.ext h
  rw [Worksheet.mk.injEq]
  exact ⟨hextent, this⟩

theorem apply_append (w : Worksheet) (es fs : List Edit) :
    w.apply (es ++ fs) = (w.apply es).apply fs := by
  simp [apply]

theorem extent_apply (w : Worksheet) (es : List Edit) :
    (w.apply es).extent = w.extent.growAll (es.map (·.reference)) := by
  induction es using List.reverseRecOn with
  | nil => rfl
  | append_singleton es e ih =>
    rw [apply_append, List.map_append, Extent.growAll_append, ← ih]
    rfl

/-- The term that a worksheet keeps: none for the empty one. -/
def kept (term : String) : Option String := if term = "" then none else some term

theorem kept_eq_some_iff {term term' : String} :
    kept term = some term' ↔ term = term' ∧ term' ≠ "" := by
  unfold kept
  split
  · rename_i h
    subst h
    simp [eq_comm]
  · rename_i h
    rw [Option.some.injEq, iff_self_and]
    rintro rfl
    exact h

/-- **A cell after changes** has the last term that they give it, and keeps its own if they do not
name it. -/
theorem get?_apply (w : Worksheet) (es : List Edit) (r : Reference) :
    (w.apply es).get? r = ((Edit.lastTerm? r es).map kept).getD (w.get? r) := by
  induction es using List.reverseRecOn with
  | nil => rfl
  | append_singleton es e ih =>
    rw [apply_append, Edit.lastTerm?_concat]
    show ((w.apply es).set e.reference e.term).get? r = _
    rw [get?_set, ih]
    by_cases h : e.reference = r
    · simp [h, kept]
    · simp [h, Ne.symm h]

/-- **Changes with the same last terms make the same worksheet.** -/
theorem apply_congr (w : Worksheet) {es fs : List Edit}
    (h : ∀ r, Edit.lastTerm? r es = Edit.lastTerm? r fs) : w.apply es = w.apply fs := by
  refine ext ?_ fun r => by rw [get?_apply, get?_apply, h r]
  rw [extent_apply, extent_apply]
  refine Extent.growAll_congr _ fun r => ?_
  have := congrArg Option.isSome (h r)
  rw [Bool.eq_iff_iff, Edit.lastTerm?_isSome, Edit.lastTerm?_isSome] at this
  simpa using this

/-- Changes that are made once more in their order change nothing, whatever was made before them. -/
theorem apply_again (w : Worksheet) (es fs gs : List Edit) :
    (w.apply (es ++ fs)).apply (fs ++ gs) = w.apply (es ++ fs ++ gs) := by
  rw [← apply_append]
  refine apply_congr w fun r => ?_
  simp only [Edit.lastTerm?_append]
  cases Edit.lastTerm? r gs <;> cases Edit.lastTerm? r fs <;> rfl

/-- Changes that are made twice are made. -/
theorem apply_apply (w : Worksheet) (es : List Edit) : (w.apply es).apply es = w.apply es := by
  simpa using w.apply_again [] es []

end Worksheet

end SharedSheet
