import SharedSheet.Proofs.CachedSheet

/-!
# Folding a log into a cache

A build passes over many entries of a log: those up to the greatest number folded, proposals, and
entries that cannot be folded because their payload cannot be read or their sheet is not known.
`Cache.absorb_cases` says what one entry does, and all that follows is derived from it.

The only thing that a cache remembers of a log is the greatest number that it folded. This is enough
to go through the same entries twice. An entry that can be folded is within that number afterwards,
and whether an entry can be folded does not change, since a build makes no sheet known. No order of
the entries comes into it. Where a cache ends up does depend on their order, and for entries in the
order of their numbers it is told sheet by sheet.

## Main definitions

* `Cache.canFold` — whether an entry can be folded at all

## Main results

* `Cache.absorb_cases` — what one entry does
* `Cache.lastFolded_build_lt_iff`, `Cache.find?_build` — the cache after a build
* `Cache.topping_up` — a build of entries that begin with those of an earlier build
-/

namespace SharedSheet.Cache

variable {c : Cache} {e : LogEntry} {es : List LogEntry}

/-! ### One entry -/

/-- Whether an entry can be folded: it is accepted, its payload can be read, and its sheet is
known. -/
def canFold (c : Cache) (e : LogEntry) : Bool :=
  e.accepted && (Payload.parse e.payload).toOption.isSome && c.sheets.contains e.sheet

/-- An entry is passed over, because it cannot be folded or its number is folded already, or it is
folded into its sheet. -/
theorem absorb_cases (c : Cache) (n : Nat) (e : LogEntry) :
    (c.canFold e = true → e.id ≤ c.lastFolded) ∧ absorb (c, n) e = (c, n) ∨
    ∃ s, c.canFold e = true ∧ c.lastFolded < e.id ∧ c.sheets.find? e.sheet = some s ∧
      absorb (c, n) e =
        ({ c with sheets := c.sheets.insert e.sheet (s.take e), lastFolded := e.id }, n + 1) := by
  by_cases hid : e.id ≤ c.lastFolded
  · exact .inl ⟨fun _ => hid, if_pos hid⟩
  · have hmax : max c.lastFolded e.id = e.id := by omega
    rw [absorb, if_neg hid, fold]
    cases haccepted : e.accepted with
    | false => exact .inl ⟨by simp [canFold, haccepted], rfl⟩
    | true =>
      cases hread : Payload.parse e.payload with
      | error bad => exact .inl ⟨by simp [canFold, hread, Except.toOption], rfl⟩
      | ok edits =>
        cases hsheet : c.sheets.find? e.sheet with
        | none =>
          have hcannot : c.canFold e = false := by simp [canFold, Table.contains, hsheet]
          exact .inl ⟨by simp [hcannot], by simp [update, sheet, hsheet]⟩
        | some s =>
          refine .inr ⟨s, ?_, Nat.lt_of_not_le hid, rfl, ?_⟩
          · simp [canFold, Table.contains, haccepted, hread, hsheet, Except.toOption]
          · simp [update, sheet, hsheet, hmax, CachedSheet.take, LogEntry.edits,
              Payload.edits_of_parse hread]

theorem defaultExtent_absorb (n : Nat) : (absorb (c, n) e).1.defaultExtent = c.defaultExtent := by
  obtain ⟨-, h⟩ | ⟨s, -, -, -, h⟩ := absorb_cases c n e <;> rw [h]

/-- Entries make no sheet known. -/
theorem contains_absorb (n id : Nat) :
    (absorb (c, n) e).1.sheets.contains id = c.sheets.contains id := by
  obtain ⟨-, h⟩ | ⟨s, -, -, hs, h⟩ := absorb_cases c n e
  · rw [h]
  · rw [h, Table.contains, Table.find?_insert]
    split
    · rename_i heq
      rw [Ranked.rank_injective heq, Table.contains, hs]
      rfl
    · rfl

/-! ### A build -/

theorem build_concat (c : Cache) (es : List LogEntry) (e : LogEntry) :
    c.build (es ++ [e]) = absorb (c.build es) e := by
  simp [build]

theorem defaultExtent_build (c : Cache) (es : List LogEntry) :
    (c.build es).1.defaultExtent = c.defaultExtent := by
  induction es using List.reverseRecOn with
  | nil => rfl
  | append_singleton es e ih => rw [build_concat, ← ih]; exact defaultExtent_absorb _

theorem contains_build (c : Cache) (es : List LogEntry) (id : Nat) :
    (c.build es).1.sheets.contains id = c.sheets.contains id := by
  induction es using List.reverseRecOn with
  | nil => rfl
  | append_singleton es e ih => rw [build_concat, ← ih]; exact contains_absorb _ id

theorem canFold_build (c : Cache) (es : List LogEntry) (e : LogEntry) :
    (c.build es).1.canFold e = c.canFold e := by
  rw [canFold, contains_build, canFold]

/-- The greatest number folded is the greatest one of all entries that can be folded, in whatever
order they come. -/
theorem lastFolded_build_lt_iff {m : Nat} : (c.build es).1.lastFolded < m ↔
    c.lastFolded < m ∧ ∀ e ∈ es, c.canFold e = true → e.id < m := by
  induction es using List.reverseRecOn with
  | nil => simp [build]
  | append_singleton es e ih =>
    rw [build_concat, List.forall_mem_append, List.forall_mem_singleton, ← and_assoc, ← ih,
      ← canFold_build c es e]
    obtain ⟨hpass, h⟩ | ⟨s, hcan, hnew, -, h⟩ := absorb_cases (c.build es).1 (c.build es).2 e
    · rw [show absorb (c.build es) e = _ from h]
      exact ⟨fun hlt => ⟨hlt, fun hcan => Nat.lt_of_le_of_lt (hpass hcan) hlt⟩, And.left⟩
    · rw [show absorb (c.build es) e = _ from h]
      exact ⟨fun hlt => ⟨Nat.lt_trans hnew hlt, fun _ => hlt⟩, fun hlt => hlt.2 hcan⟩

/-- **A build of entries in the order of their numbers folds into every sheet its own entries**, as
far as they are new, accepted, and can be read. -/
theorem find?_build (hascending : es.Pairwise (·.id < ·.id)) (id : Nat) :
    (c.build es).1.sheets.find? id = (c.sheets.find? id).map fun s =>
      (es.filter fun e => c.lastFolded < e.id && c.canFold e && e.sheet == id).foldl
        CachedSheet.take s := by
  induction es using List.reverseRecOn with
  | nil => simp [build]
  | append_singleton es e ih =>
    obtain ⟨hes, -, hlt⟩ := List.pairwise_append.1 hascending
    -- The earlier entries have smaller numbers, so they do not count for whether this one is new.
    have hnew : (c.build es).1.lastFolded < e.id ↔ c.lastFolded < e.id := by
      rw [lastFolded_build_lt_iff]
      exact and_iff_left fun f hf _ => hlt f hf e (List.mem_singleton_self e)
    have ih := ih hes
    rw [build_concat, List.filter_append, List.filter_cons, List.filter_nil,
      ← canFold_build c es e]
    obtain ⟨hpass, h⟩ | ⟨s, hcan, hnewer, hs, h⟩ := absorb_cases (c.build es).1 (c.build es).2 e
    · have hnot : ¬ (c.lastFolded < e.id ∧ (c.build es).1.canFold e = true) :=
        fun ⟨hlt, hcan⟩ => Nat.not_le_of_lt (hnew.2 hlt) (hpass hcan)
      rw [show absorb (c.build es) e = _ from h, ih]
      simp [hnot]
    · rw [show absorb (c.build es) e = _ from h]
      by_cases hid : e.sheet = id
      · subst hid
        rw [ih] at hs
        obtain ⟨s₀, hs₀, rfl⟩ := Option.map_eq_some_iff.1 hs
        simp [Table.find?_insert, hs₀, hcan, hnew.1 hnewer]
      · simp [Table.find?_insert, Ranked.rank_inj, hid, Ne.symm hid, ih]

/-! ### A second build -/

/-- Entries of an earlier build are passed over. -/
theorem foldl_absorb_of_pass {n : Nat} (h : ∀ e ∈ es, c.canFold e = true → e.id ≤ c.lastFolded) :
    es.foldl absorb (c, n) = (c, n) := by
  induction es with
  | nil => rfl
  | cons e es ih =>
    obtain ⟨he, hes⟩ := List.forall_mem_cons.1 h
    obtain ⟨-, habsorb⟩ | ⟨s, hcan, hnew, -, -⟩ := absorb_cases c n e
    · rw [List.foldl_cons, habsorb, ih hes]
    · exact absurd (he hcan) (Nat.not_le_of_lt hnew)

theorem absorb_add (n m : Nat) :
    absorb (c, n + m) e = ((absorb (c, m) e).1, n + (absorb (c, m) e).2) := by
  by_cases hid : e.id ≤ c.lastFolded
  · simp only [absorb, if_pos hid]
  · simp only [absorb, if_neg hid]
    rcases c.fold e with _ | _ | folded <;> rfl

/-- The number of entries folded goes on from where it was. -/
theorem foldl_absorb_eq (n : Nat) :
    es.foldl absorb (c, n) = ((c.build es).1, n + (c.build es).2) := by
  induction es using List.reverseRecOn with
  | nil => rfl
  | append_singleton es e ih =>
    rw [List.foldl_append, ih, build_concat]
    exact absorb_add _ _

theorem build_append (c : Cache) (es fs : List LogEntry) : c.build (es ++ fs) =
    (((c.build es).1.build fs).1, (c.build es).2 + ((c.build es).1.build fs).2) := by
  rw [build, List.foldl_append]
  exact foldl_absorb_eq _

/-- **Topping up equals a cold build.** A cache that folded the beginning of a log and then goes
through the whole log is the one that goes through it once, and as many entries are folded. This is
so for every cache to begin with, whatever sheets it knows, and for entries of all kinds in any
order. -/
theorem topping_up (c : Cache) (es fs : List LogEntry) :
    ((c.build es).1.build (es ++ fs)).1 = (c.build (es ++ fs)).1 ∧
      (c.build es).2 + ((c.build es).1.build (es ++ fs)).2 = (c.build (es ++ fs)).2 := by
  have hpass : (c.build es).1.build es = ((c.build es).1, 0) :=
    foldl_absorb_of_pass fun e he hcan => by
      rw [canFold_build] at hcan
      exact Nat.le_of_lt_succ ((lastFolded_build_lt_iff.1 (Nat.lt_succ_self _)).2 e he hcan)
  rw [build_append (c.build es).1, hpass, build_append c]
  exact ⟨rfl, by simp⟩

-- Among the entries are a proposal, an entry of a sheet that is not known, and one that cannot be
-- read. Both ways fold the two others.
example :
    let c := Cache.register { defaultExtent := ⟨10, 10⟩ } 1
    let es : List LogEntry := [⟨⟨1, "ana", "$A1 x\n", true, .epoch⟩, 1⟩,
      ⟨⟨1, "ben", "$A1 z\n", false, .epoch⟩, 2⟩]
    let fs : List LogEntry := [⟨⟨7, "ana", "$A1 y\n", true, .epoch⟩, 3⟩,
      ⟨⟨1, "ana", "x to A1", true, .epoch⟩, 4⟩, ⟨⟨1, "ana", "$L20 u\n", true, .epoch⟩, 5⟩]
    let topped := (c.build es).1.build (es ++ fs)
    let cold := c.build (es ++ fs)
    ((c.build es).2, topped.2, cold.2) = (1, 1, 2) ∧
      [topped.1, cold.1].map (fun d => (d.lastFolded, d.sheetIds, d.cell? 1 ⟨1, 1⟩,
        d.cell? 1 ⟨12, 20⟩)) =
      List.replicate 2 (5, [1], some ⟨"x", 1⟩, some ⟨"u", 5⟩) := by
  decide +kernel

end SharedSheet.Cache
