import Mathlib.Data.Finset.Dedup
import Mathlib.Data.List.Sort
import Mathlib.Data.Set.Card
import SharedSheet.Proofs.Reference.Spelling
import SharedSheet.Reference.Range

/-!
# The cells of a rectangle

Two corners are any two cells, so a rectangle is said without telling which of them comes first: a
cell belongs to it if its column and its row lie between those of the corners, in whichever order
these are. How many cells that are is their number as a set, which does not depend on how they are
counted. There may be as many as there are references.

A side of a rectangle is a run of words, listed upwards. All that is to be said of the rectangle is
said of its two sides first.

## Main definitions

* `Reference.LiesBetween` — the cells of a rectangle
* `Reference.PrecedesByRow` — the order in which they are listed
* `Reference.Lists` — a list of the cells of a rectangle in that order
* `Reference.side` — the words between two others

## Main results

* `Reference.mem_rectangle`, `Reference.pairwise_rectangle` — the list of a rectangle's cells
* `Reference.rectangle?_eq_some_iff` — it is the only one
* `Reference.ncard_liesBetween` — how many they are
* `Reference.rectangle?_exact` — which rectangles are listed, and how
-/

namespace SharedSheet.Reference

/-! ### Sides -/

/-- A word lies between two others, whichever of them is greater. -/
def Between (x y n : UInt32) : Prop := x ≤ n ∧ n ≤ y ∨ y ≤ n ∧ n ≤ x

/-- The words between two others, upwards. -/
def side (x y : UInt32) : List UInt32 :=
  (List.range' (min x.toNat y.toNat) (max x.toNat y.toNat - min x.toNat y.toNat + 1)).map
    UInt32.ofNat

variable {x y n : UInt32}

theorem side_comm (x y : UInt32) : side x y = side y x := by
  rw [side, side, Nat.min_comm, Nat.max_comm]

theorem toNat_ofNat_of_mem_range' {m : Nat} (h : m ∈ List.range' (min x.toNat y.toNat)
    (max x.toNat y.toNat - min x.toNat y.toNat + 1)) : (UInt32.ofNat m).toNat = m := by
  have hx := x.toNat_lt
  have hy := y.toNat_lt
  rw [List.mem_range'_1] at h
  exact UInt32.toNat_ofNat_of_lt' (by simp only [UInt32.size]; omega)

theorem mem_side : n ∈ side x y ↔ Between x y n := by
  simp only [side, List.mem_map, Between, UInt32.le_iff_toNat_le]
  constructor
  · rintro ⟨m, hm, rfl⟩
    rw [toNat_ofNat_of_mem_range' hm]
    rw [List.mem_range'_1] at hm
    omega
  · intro h
    exact ⟨n.toNat, List.mem_range'_1.2 (by omega), UInt32.ofNat_toNat⟩

theorem pairwise_side (x y : UInt32) : (side x y).Pairwise (· < ·) := by
  refine List.pairwise_map.2 ((List.pairwise_lt_range' 1).imp_of_mem fun hm hm' hlt => ?_)
  rwa [UInt32.lt_iff_toNat_lt, toNat_ofNat_of_mem_range' hm, toNat_ofNat_of_mem_range' hm']

/-- Between two words that are not zero there is no zero. -/
theorem Between.ne_zero (h : Between x y n) (hx : x ≠ 0) (hy : y ≠ 0) : n ≠ 0 := by
  rintro rfl
  rcases h with ⟨h, -⟩ | ⟨h, -⟩
  · exact hx (UInt32.le_antisymm h (UInt32.zero_le))
  · exact hy (UInt32.le_antisymm h (UInt32.zero_le))

/-! ### Rectangles -/

/-- A cell of the rectangle between two corners. -/
def LiesBetween (a b r : Reference) : Prop :=
  Between a.column b.column r.column ∧ Between a.row b.row r.row

/-- The order row by row, and in a row by column. -/
def PrecedesByRow (r q : Reference) : Prop :=
  r.row < q.row ∨ r.row = q.row ∧ r.column < q.column

variable {a b r : Reference}

theorem rectangle_eq (a b : Reference) : rectangle a b =
    (side a.row b.row).flatMap fun row =>
      (side a.column b.column).map fun column => ⟨column, row⟩ := by
  simp only [rectangle, rowSpan, columnSpan, side, List.flatMap_map, List.map_map]
  rfl

theorem length_rectangle (a b : Reference) : (rectangle a b).length = cellCount a b := by
  simp [rectangle, cellCount]

/-- **The cells of a rectangle are listed**, and no others. -/
theorem mem_rectangle : r ∈ rectangle a b ↔ LiesBetween a b r := by
  simp only [rectangle_eq, List.mem_flatMap, List.mem_map, mem_side, LiesBetween]
  constructor
  · rintro ⟨row, hrow, column, hcolumn, rfl⟩
    exact ⟨hcolumn, hrow⟩
  · rintro ⟨hcolumn, hrow⟩
    exact ⟨_, hrow, _, hcolumn, rfl⟩

/-- Between cells there are only cells. -/
theorem isCell_of_mem_rectangle (ha : a.IsCell) (hb : b.IsCell) (h : r ∈ rectangle a b) :
    r.IsCell := by
  obtain ⟨hcolumn, hrow⟩ := mem_rectangle.1 h
  exact ⟨hcolumn.ne_zero ha.1 hb.1, hrow.ne_zero ha.2 hb.2⟩

/-- **The cells of a rectangle are listed row by row.** -/
theorem pairwise_rectangle (a b : Reference) : (rectangle a b).Pairwise PrecedesByRow := by
  rw [rectangle_eq, List.pairwise_flatMap]
  refine ⟨fun row _ => ?_, (pairwise_side a.row b.row).imp fun hlt r hr q hq => ?_⟩
  · exact List.pairwise_map.2 ((pairwise_side _ _).imp fun hlt => .inr ⟨rfl, hlt⟩)
  · obtain ⟨_, -, rfl⟩ := List.mem_map.1 hr
    obtain ⟨_, -, rfl⟩ := List.mem_map.1 hq
    exact .inl hlt

instance : Std.Irrefl PrecedesByRow where
  irrefl _ h := by rcases h with h | ⟨-, h⟩ <;> exact UInt32.lt_irrefl _ h

instance : Std.Antisymm PrecedesByRow where
  antisymm r q h h' := by
    simp only [PrecedesByRow, UInt32.lt_iff_toNat_lt, ← UInt32.toNat_inj] at h h'
    omega

theorem nodup_rectangle (a b : Reference) : (rectangle a b).Nodup :=
  (pairwise_rectangle a b).nodup

/-- A list of the cells of a rectangle, row by row. -/
structure Lists (a b : Reference) (cells : List Reference) : Prop where
  mem_iff : ∀ r, r ∈ cells ↔ LiesBetween a b r
  byRow : cells.Pairwise PrecedesByRow

theorem lists_rectangle (a b : Reference) : Lists a b (rectangle a b) :=
  ⟨fun _ => mem_rectangle, pairwise_rectangle a b⟩

/-- The cells and their order leave no choice. -/
theorem Lists.eq_rectangle {cells : List Reference} (h : Lists a b cells) :
    cells = rectangle a b :=
  h.byRow.eq_of_mem_iff (pairwise_rectangle a b) fun r => (h.mem_iff r).trans mem_rectangle.symm

/-- **The cells of a rectangle are given as the list of them**, unless there are too many. -/
theorem rectangle?_eq_some_iff {cells : List Reference} :
    rectangle? a b = some cells ↔ Lists a b cells ∧ cells.length ≤ 65536 := by
  rw [rectangle?, Option.ite_none_right_eq_some, Option.some.injEq]
  constructor
  · rintro ⟨hcount, rfl⟩
    exact ⟨lists_rectangle a b, (length_rectangle a b).trans_le hcount⟩
  · rintro ⟨hlists, hlength⟩
    obtain rfl := hlists.eq_rectangle
    exact ⟨(length_rectangle a b).symm.trans_le hlength, rfl⟩

/-- **How many cells a rectangle has**: as many as its sides say. -/
theorem ncard_liesBetween (a b : Reference) : {r | LiesBetween a b r}.ncard = cellCount a b := by
  have hcells : {r | LiesBetween a b r} = ((rectangle a b).toFinset : Set Reference) := by
    ext r
    rw [List.coe_toFinset]
    exact mem_rectangle.symm
  rw [hcells, Set.ncard_coe_finset, List.toFinset_card_of_nodup (nodup_rectangle a b),
    length_rectangle]

/-- A rectangle is refused or listed for what its cells are. -/
theorem rectangle?_congr {a' b' : Reference} (h : rectangle a b = rectangle a' b') :
    rectangle? a b = rectangle? a' b' := by
  rw [rectangle?, rectangle?, ← length_rectangle, ← length_rectangle, h]

/-- **Which rectangles are listed, and how.** A rectangle of more than 65536 cells is refused. Of
any other one exactly its cells are listed, each once, row by row. The corners may be given in
either order, and the other two corners give the same. -/
theorem rectangle_listed_exactly (a b : Reference) :
    (rectangle? a b = none ↔ 65536 < {r | LiesBetween a b r}.ncard) ∧
    (∀ cells, rectangle? a b = some cells → (∀ r, r ∈ cells ↔ LiesBetween a b r) ∧
      cells.Nodup ∧ cells.Pairwise PrecedesByRow) ∧
    rectangle? b a = rectangle? a b ∧
    rectangle? ⟨a.column, b.row⟩ ⟨b.column, a.row⟩ = rectangle? a b := by
  refine ⟨?_, fun cells h => ?_, rectangle?_congr ?_, rectangle?_congr ?_⟩
  · rw [ncard_liesBetween, rectangle?, maxRangeCells, ite_eq_right_iff]
    simp
  · obtain rfl := Option.some.inj (Option.ite_none_right_eq_some.1 h).2
    exact ⟨fun r => mem_rectangle, nodup_rectangle a b, pairwise_rectangle a b⟩
  · rw [rectangle_eq, rectangle_eq, side_comm b.row, side_comm b.column]
  · rw [rectangle_eq, rectangle_eq, side_comm b.row]

/-- The last two rows and columns that there are. -/
theorem rectangle_listed_exactly_at_end :
    let cells : List Reference := [⟨4294967294, 4294967294⟩, ⟨4294967295, 4294967294⟩,
      ⟨4294967294, 4294967295⟩, ⟨4294967295, 4294967295⟩]
    rectangle? ⟨4294967295, 4294967294⟩ ⟨4294967294, 4294967295⟩ = some cells ∧
      (∀ r, r ∈ cells ↔ LiesBetween ⟨4294967295, 4294967294⟩ ⟨4294967294, 4294967295⟩ r) ∧
      cells.Nodup ∧ cells.Pairwise PrecedesByRow := by
  have hcells : rectangle? ⟨4294967295, 4294967294⟩ ⟨4294967294, 4294967295⟩ =
      some [⟨4294967294, 4294967294⟩, ⟨4294967295, 4294967294⟩,
        ⟨4294967294, 4294967295⟩, ⟨4294967295, 4294967295⟩] := by
    decide +kernel
  exact ⟨hcells, (rectangle_listed_exactly _ _).2.1 _ hcells⟩

end SharedSheet.Reference
