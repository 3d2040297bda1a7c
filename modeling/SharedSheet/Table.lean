/-!
# Tables with keys in order

A table maps keys to values and lists its rows in ascending order of their keys. Keys are ordered
by a number that names them, so every fact about the order is one about natural numbers. The rows
are kept sorted by a proof field: two tables that answer every look-up alike are equal, whatever
was inserted into them and in which order.

## Main definitions

* `Ranked` — key types whose elements are named by distinct numbers
* `Table.find?` — the value at a key; every operation below is described through it
* `Table.insert`, `Table.erase`, `Table.filter`, `Table.map` — the operations
* `Table.ext` — tables with equal look-ups are equal
-/

namespace SharedSheet

/-- A type whose elements are named by distinct numbers, and ordered by them. -/
class Ranked (κ : Type) where
  /-- The number of a key. -/
  rank : κ → Nat
  /-- Different keys have different numbers. -/
  rank_injective : ∀ {a b : κ}, rank a = rank b → a = b

export Ranked (rank)

theorem Ranked.rank_inj {κ : Type} [Ranked κ] {a b : κ} : rank a = rank b ↔ a = b :=
  ⟨rank_injective, fun h => h ▸ rfl⟩

instance : Ranked Nat where
  rank n := n
  rank_injective h := h

/-- Rows in ascending order of their keys, each key once. -/
structure Table (κ α : Type) [Ranked κ] where
  /-- The rows. -/
  rows : List (κ × α) := []
  sorted : rows.Pairwise (rank ·.1 < rank ·.1) := by simp

namespace Table

variable {κ α β : Type} [Ranked κ]

/-! ### Look-ups -/

/-- The value that rows in order hold at a key. The search stops where the key would stand. -/
def search (k : κ) : List (κ × α) → Option α
  | [] => none
  | (key, value) :: rows =>
    if rank key < rank k then search k rows
    else if rank key = rank k then some value
    else none

/-- The value at a key. -/
def find? (t : Table κ α) (k : κ) : Option α := search k t.rows

/-- Whether a key has a value. -/
def contains (t : Table κ α) (k : κ) : Bool := (t.find? k).isSome

/-- The keys in order. -/
def keys (t : Table κ α) : List κ := t.rows.map (·.1)

/-- The number of rows. -/
def size (t : Table κ α) : Nat := t.rows.length

/-! ### Operations on rows -/

/-- Puts a row where its key stands, in place of the row with that key if there is one. -/
def place (k : κ) (v : α) : List (κ × α) → List (κ × α)
  | [] => [(k, v)]
  | (key, value) :: rows =>
    if rank key < rank k then (key, value) :: place k v rows
    else if rank key = rank k then (k, v) :: rows
    else (k, v) :: (key, value) :: rows

theorem mem_place {k : κ} {v : α} {row : κ × α} {rows : List (κ × α)}
    (h : row ∈ place k v rows) : row = (k, v) ∨ row ∈ rows := by
  induction rows with
  | nil => simpa [place] using h
  | cons first rows ih =>
    unfold place at h
    split at h
    · rcases List.mem_cons.1 h with h | h
      · exact .inr (by simp [h])
      · exact (ih h).imp id (List.mem_cons_of_mem _)
    · split at h
      · rcases List.mem_cons.1 h with h | h
        · exact .inl h
        · exact .inr (List.mem_cons_of_mem _ h)
      · rcases List.mem_cons.1 h with h | h
        · exact .inl h
        · exact .inr h

theorem pairwise_place (k : κ) (v : α) {rows : List (κ × α)}
    (h : rows.Pairwise (rank ·.1 < rank ·.1)) :
    (place k v rows).Pairwise (rank ·.1 < rank ·.1) := by
  induction rows with
  | nil => simp [place]
  | cons first rows ih =>
    obtain ⟨hfirst, hrows⟩ := List.pairwise_cons.1 h
    unfold place
    split
    · refine List.pairwise_cons.2 ⟨fun row hrow => ?_, ih hrows⟩
      rcases mem_place hrow with rfl | hrow
      · assumption
      · exact hfirst row hrow
    · split
      · refine List.pairwise_cons.2 ⟨fun row hrow => ?_, hrows⟩
        have := hfirst row hrow
        simp_all
      · refine List.pairwise_cons.2 ⟨fun row hrow => ?_, h⟩
        rcases List.mem_cons.1 hrow with rfl | hrow
        · simp only; omega
        · have := hfirst row hrow
          simp only; omega

/-! ### The operations -/

/-- The table without rows. -/
def empty : Table κ α := {}

instance : EmptyCollection (Table κ α) := ⟨empty⟩

/-- Gives a key a value, in place of the one it has. -/
def insert (t : Table κ α) (k : κ) (v : α) : Table κ α where
  rows := place k v t.rows
  sorted := pairwise_place k v t.sorted

/-- Keeps the rows that pass a test. -/
def filter (keep : κ → α → Bool) (t : Table κ α) : Table κ α where
  rows := t.rows.filter fun row => keep row.1 row.2
  sorted := t.sorted.filter _

/-- Takes a key and its value out. -/
def erase (t : Table κ α) (k : κ) : Table κ α := t.filter fun key _ => rank key ≠ rank k

/-- Changes every value. -/
def map (f : κ → α → β) (t : Table κ α) : Table κ β where
  rows := t.rows.map fun row => (row.1, f row.1 row.2)
  sorted := by
    rw [List.pairwise_map]
    exact t.sorted

/-- The table that holds the rows of a list, later rows in place of earlier ones. -/
def ofList (rows : List (κ × α)) : Table κ α :=
  rows.foldl (fun t row => t.insert row.1 row.2) empty

/-! ### What the operations do to look-ups -/

theorem search_place (k k' : κ) (v : α) (rows : List (κ × α)) :
    search k' (place k v rows) = if rank k' = rank k then some v else search k' rows := by
  induction rows with
  | nil =>
    simp only [place, search]
    repeat' split
    all_goals first | rfl | omega
  | cons first rows ih =>
    unfold place
    split
    · simp only [search, ih]
      repeat' split
      all_goals first | rfl | omega
    · split <;>
      · simp only [search]
        repeat' split
        all_goals first | rfl | omega

theorem search_eq_none {k : κ} {rows : List (κ × α)} (h : ∀ row ∈ rows, rank k < rank row.1) :
    search k rows = none := by
  cases rows with
  | nil => rfl
  | cons first rows =>
    have := h first (by simp)
    simp only [search]
    repeat' split
    all_goals first | rfl | omega

theorem find?_empty (k : κ) : (empty : Table κ α).find? k = none := rfl

theorem find?_insert (t : Table κ α) (k k' : κ) (v : α) :
    (t.insert k v).find? k' = if rank k' = rank k then some v else t.find? k' :=
  search_place k k' v t.rows

theorem search_filter (keep : κ → α → Bool) (k : κ) {rows : List (κ × α)}
    (h : rows.Pairwise (rank ·.1 < rank ·.1)) :
    search k (rows.filter fun row => keep row.1 row.2) = (search k rows).filter (keep k) := by
  induction rows with
  | nil => rfl
  | cons first rows ih =>
    obtain ⟨key, value⟩ := first
    obtain ⟨hfirst, hrows⟩ := List.pairwise_cons.1 h
    have ih := ih hrows
    have hnone : ¬ rank key < rank k → search k (rows.filter fun row => keep row.1 row.2) = none :=
      fun hk => search_eq_none fun row hrow => by
        have := hfirst row (List.mem_filter.1 hrow).1
        simp only at this; omega
    by_cases hkeep : keep key value
    · simp only [List.filter_cons, hkeep, if_true, search]
      repeat' split
      · exact ih
      · have := Ranked.rank_injective (by assumption : rank key = rank k)
        subst this
        simp [Option.filter, hkeep]
      · rfl
    · simp only [List.filter_cons, hkeep, if_false, search, Bool.false_eq_true]
      repeat' split
      · exact ih
      · have := Ranked.rank_injective (by assumption : rank key = rank k)
        subst this
        simp [Option.filter, hkeep, hnone]
      · exact hnone (by assumption)

theorem find?_filter (keep : κ → α → Bool) (t : Table κ α) (k : κ) :
    (t.filter keep).find? k = (t.find? k).filter (keep k) :=
  search_filter keep k t.sorted

theorem find?_erase (t : Table κ α) (k k' : κ) :
    (t.erase k).find? k' = if rank k' = rank k then none else t.find? k' := by
  rw [erase, find?_filter]
  cases t.find? k' <;> by_cases h : rank k' = rank k <;> simp [Option.filter, h]

theorem find?_map (f : κ → α → β) (t : Table κ α) (k : κ) :
    (t.map f).find? k = (t.find? k).map (f k) := by
  obtain ⟨rows, hrows⟩ := t
  simp only [map, find?]
  clear hrows
  induction rows with
  | nil => rfl
  | cons first rows ih =>
    simp only [List.map_cons, search, ih]
    repeat' split
    · rfl
    · have := Ranked.rank_injective (by assumption : rank first.1 = rank k)
      subst this
      rfl
    · rfl

/-! ### Tables are determined by their look-ups -/

theorem mem_rows_iff {t : Table κ α} {k : κ} {v : α} :
    (k, v) ∈ t.rows ↔ t.find? k = some v := by
  obtain ⟨rows, hrows⟩ := t
  simp only [find?]
  induction rows with
  | nil => simp [search]
  | cons first rows ih =>
    obtain ⟨hfirst, hrows⟩ := List.pairwise_cons.1 hrows
    have ih := ih hrows
    simp only [List.mem_cons, search]
    repeat' split
    · rw [ih, or_iff_right]
      rintro rfl
      simp_all
    · have := Ranked.rank_injective (by assumption : rank first.1 = rank k)
      subst this
      rw [or_iff_left]
      · constructor
        · intro h; rw [(Prod.mk.inj h).2]
        · intro h; rw [← Option.some.inj h]
      · intro h
        have := hfirst _ h
        simp only at this; omega
    · simp only [reduceCtorEq, iff_false, not_or]
      constructor
      · rintro rfl; simp_all
      · intro h
        have := hfirst _ h
        simp only at this; omega

/-- Tables with equal look-ups are equal. -/
theorem ext {t u : Table κ α} (h : ∀ k, t.find? k = u.find? k) : t = u := by
  have hmem : ∀ row, row ∈ t.rows ↔ row ∈ u.rows := fun row => by
    rw [show row = (row.1, row.2) from rfl, mem_rows_iff, mem_rows_iff, h]
  obtain ⟨rows, hrows⟩ := t
  obtain ⟨others, hothers⟩ := u
  have : rows = others := by
    simp only at hmem
    clear h
    induction rows generalizing others with
    | nil =>
      cases others with
      | nil => rfl
      | cons first others => exact absurd ((hmem first).2 (by simp)) (by simp)
    | cons first rows ih =>
      cases others with
      | nil => exact absurd ((hmem first).1 (by simp)) (by simp)
      | cons first' others =>
        obtain ⟨hfirst, hrows⟩ := List.pairwise_cons.1 hrows
        obtain ⟨hfirst', hothers'⟩ := List.pairwise_cons.1 hothers
        have heq : first = first' := by
          rcases List.mem_cons.1 ((hmem first).1 (by simp)) with h | h
          · exact h
          · rcases List.mem_cons.1 ((hmem first').2 (by simp)) with h' | h'
            · exact h'.symm
            · have := hfirst _ h'
              have := hfirst' _ h
              omega
        subst heq
        congr 1
        refine ih hrows others hothers' fun row => ?_
        have hrow := hmem row
        simp only [List.mem_cons] at hrow
        constructor
        · intro hr
          rcases hrow.1 (.inr hr) with rfl | h
          · exact absurd (hfirst _ hr) (by omega)
          · exact h
        · intro hr
          rcases hrow.2 (.inr hr) with rfl | h
          · exact absurd (hfirst' _ hr) (by omega)
          · exact h
  subst this
  rfl

end Table

end SharedSheet
