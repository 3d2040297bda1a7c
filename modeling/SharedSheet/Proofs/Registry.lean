import Mathlib.Data.List.Pairwise
import Mathlib.Order.Bounds.Basic
import SharedSheet.Registry.Basic

/-!
# What holds of every registry

Callers name a sheet by its owner and its name, the log names it by its number. Both have to be
unambiguous, and the numbers also against the past: a number that was given once is never given
again. `Registry.Sound` collects what the operations keep so that this is the case.

The one operation with a condition is adding a sheet. Its name has to be free among its owner's
names, and `uniqueName_not_mem` says that the name which the service asks for is. The search for it
has no number left only when the counter overflows. Since numbered names are all different, this
takes as many taken names as the counter has numbers.

## Main definitions

* `TakenBelow` — all numbered names below a number are taken
* `NamedAfresh` — a name is given that is new, with the least number if it needs one
* `Registry.Sound` — owners are listed, numbers and addresses are each given once

## Main results

* `uniqueName_not_mem` — the name found is free
* `uniqueName_fresh_and_least` — when the numbers run out, and that names are new otherwise
* `not_namedAfresh_of_all_taken` — names that let them run out
* `Registry.Sound.addSheet` and its siblings — the operations keep soundness
* `Registry.Sound.findSheet?_address` — every sheet is found under its address
-/

namespace SharedSheet

/-! ### Numbered names -/

theorem numberedName_injective {name : String} {n m : Nat}
    (h : numberedName name n = numberedName name m) : n = m := by
  have hlist := congrArg String.toList h
  simp only [numberedName, String.toList_append, List.append_assoc, List.append_cancel_left_eq,
    List.append_cancel_right_eq] at hlist
  have hdigits : Nat.toDigits 10 n = Nat.toDigits 10 m := by
    simpa [toString, Int.repr] using hlist
  rw [← @Nat.ofDigitChars_ten_toDigits n, hdigits, Nat.ofDigitChars_ten_toDigits]

theorem numberedName_ne (name : String) (n : Int) : numberedName name n ≠ name := fun h => by
  have hlength := congrArg String.length h
  have hparenthesis : " (".length = 2 := rfl
  simp only [numberedName, String.length_append] at hlength
  omega

/-- The numbered names from one up to `n`, but not `n` itself, are taken. -/
def TakenBelow (existing : List String) (requested : String) (n : Int) : Prop :=
  ∀ k, 1 ≤ k → k < n → numberedName requested k ∈ existing

namespace TakenBelow

variable {existing : List String} {requested : String} {n : Int}

theorem one : TakenBelow existing requested 1 := fun _ hk hlt => absurd hk (Int.not_le.2 hlt)

theorem succ (h : TakenBelow existing requested n) (hn : numberedName requested n ∈ existing) :
    TakenBelow existing requested (n + 1) := by
  intro k hk hlt
  rcases Int.lt_or_eq_of_le (Int.lt_add_one_iff.1 hlt) with hlt | rfl
  · exact h k hk hlt
  · exact hn

/-- A list of names holds no more numbered names than it has members besides their own name, as they
are all different. -/
theorem le_length (h : TakenBelow existing requested n) (hrequested : requested ∈ existing) :
    n ≤ existing.length := by
  let taken := (List.range' 1 (n - 1).toNat).map fun k : Nat => numberedName requested k
  have hnodup : taken.Nodup :=
    List.pairwise_map.2 ((List.nodup_range' 1).imp fun hne heq => hne (numberedName_injective heq))
  have hnew : requested ∉ taken := fun hmem => by
    obtain ⟨k, -, hk⟩ := List.mem_map.1 hmem
    exact numberedName_ne requested k hk
  have hsubset : requested :: taken ⊆ existing := by
    refine List.cons_subset.2 ⟨hrequested, fun name hname => ?_⟩
    obtain ⟨k, hk, rfl⟩ := List.mem_map.1 hname
    rw [List.mem_range'_1] at hk
    exact h k (by omega) (by omega)
  have hle := (List.nodup_cons.2 ⟨hnew, hnodup⟩).length_le_of_subset hsubset
  simp only [taken, List.length_cons, List.length_map, List.length_range'] at hle
  omega

end TakenBelow

/-! ### Free names -/

variable {existing : List String} {requested : String}

/-- The search stops at a free number, and every number it went past was taken. -/
theorem of_firstFree?_eq_some {n m : Int32} (h : firstFree? existing requested n = some m)
    (hn : 1 ≤ n.toInt) (tried : TakenBelow existing requested n.toInt) :
    1 ≤ m.toInt ∧ m.toInt < 2147483647 ∧ numberedName requested m.toInt ∉ existing ∧
      TakenBelow existing requested m.toInt := by
  fun_induction firstFree? existing requested n with
  | case1 => simp at h
  | case2 n hlast taken ih =>
    rw [toInt_succ hlast] at ih
    exact ih h (by omega) (tried.succ taken)
  | case3 n hlast free =>
    obtain rfl := Option.some.inj h
    exact ⟨hn, Int.lt_iff_le_and_ne.2 ⟨n.toInt_le, fun heq => hlast (Int32.toInt_inj.1 heq)⟩, free,
      tried⟩

/-- The search that does not stop went past all numbers before the greatest. -/
theorem takenBelow_of_firstFree?_eq_none {n : Int32} (h : firstFree? existing requested n = none)
    (tried : TakenBelow existing requested n.toInt) :
    TakenBelow existing requested 2147483647 := by
  fun_induction firstFree? existing requested n with
  | case1 => exact tried
  | case2 n hlast taken ih =>
    rw [toInt_succ hlast] at ih
    exact ih h (tried.succ taken)
  | case3 => simp at h

theorem freeNumber?_eq_none_iff :
    freeNumber? existing requested = none ↔ TakenBelow existing requested 2147483647 := by
  refine ⟨fun h => takenBelow_of_firstFree?_eq_none h .one, fun h => ?_⟩
  cases hfree : freeNumber? existing requested with
  | none => rfl
  | some n =>
    obtain ⟨hpos, hlt, hfree, -⟩ := of_firstFree?_eq_some hfree (Int.le_refl _) .one
    exact absurd (h _ hpos hlt) hfree

theorem isLeast_of_freeNumber? {n : Int32} (h : freeNumber? existing requested = some n) :
    IsLeast {k : Int | 1 ≤ k ∧ numberedName requested k ∉ existing} n.toInt := by
  obtain ⟨hpos, -, hfree, htried⟩ := of_firstFree?_eq_some h (Int.le_refl _) .one
  refine ⟨⟨hpos, hfree⟩, fun k hk => ?_⟩
  by_contra hlt
  exact hk.2 (htried k hk.1 (Int.not_le.1 hlt))

/-- The numbers run out only for lists that hold as many names as there are numbers. -/
theorem NumbersRunOut.le_length (h : NumbersRunOut existing requested) :
    2147483647 ≤ existing.length :=
  Int.ofNat_le.1 ((freeNumber?_eq_none_iff.1 h.2).le_length h.1)

/-- **The name found is free.** -/
theorem uniqueName_not_mem (h : ¬NumbersRunOut existing requested) :
    uniqueName existing requested ∉ existing := by
  unfold uniqueName
  split
  · rename_i htaken
    cases hfree : freeNumber? existing requested with
    | none => exact absurd ⟨htaken, hfree⟩ h
    | some n => exact (isLeast_of_freeNumber? hfree).1.2
  · assumption

/-- The name given is new: the one asked for if it is free, and else the one with the least number
that is. That number is at most one more than there are names. -/
structure NamedAfresh (existing : List String) (requested : String) : Prop where
  notMem : uniqueName existing requested ∉ existing
  asRequested : requested ∉ existing → uniqueName existing requested = requested
  numbered : requested ∈ existing → ∃ n : Int32, freeNumber? existing requested = some n ∧
    n.toInt ≤ existing.length + 1 ∧
    IsLeast {k : Int | 1 ≤ k ∧ numberedName requested k ∉ existing} n.toInt ∧
    uniqueName existing requested = numberedName requested n.toInt

/-- **Names are fresh and minimal** unless the numbers run out, which they do only if the name asked
for is taken with all its numbered names before the greatest number of 32 bits. A list of fewer
names than that does not let them run out. -/
theorem uniqueName_fresh_and_least (existing : List String) (requested : String) :
    (NumbersRunOut existing requested ↔ requested ∈ existing ∧
      ∀ k : Int, 1 ≤ k → k < 2147483647 → numberedName requested k ∈ existing) ∧
    (existing.length < 2147483647 → ¬NumbersRunOut existing requested) ∧
    (¬NumbersRunOut existing requested → NamedAfresh existing requested) := by
  refine ⟨and_congr_right fun _ => freeNumber?_eq_none_iff,
    fun hfew hout => absurd hout.le_length (Nat.not_le.2 hfew), fun hleft => ?_⟩
  refine ⟨uniqueName_not_mem hleft, fun hfree => if_neg hfree, fun htaken => ?_⟩
  obtain ⟨n, hn⟩ := Option.ne_none_iff_exists'.1 fun hnone => hleft ⟨htaken, hnone⟩
  obtain ⟨-, -, -, htried⟩ := of_firstFree?_eq_some hn (Int.le_refl _) .one
  have hle := htried.le_length htaken
  exact ⟨n, hn, by omega, isLeast_of_freeNumber? hn, by rw [uniqueName, if_pos htaken, hn]; rfl⟩

theorem uniqueName_fresh_and_least_between :
    ¬NumbersRunOut ["plan", "plan (1)", "plan (3)"] "plan" ∧
      uniqueName ["plan", "plan (1)", "plan (3)"] "plan" = "plan (2)" ∧
      IsLeast {k : Int | 1 ≤ k ∧
        numberedName "plan" k ∉ ["plan", "plan (1)", "plan (3)"]} 2 := by
  obtain ⟨-, hfew, hafresh⟩ :=
    uniqueName_fresh_and_least ["plan", "plan (1)", "plan (3)"] "plan"
  have hleft := hfew (by decide)
  obtain ⟨n, hn, -, hleast, hname⟩ := (hafresh hleft).numbered (by decide)
  have htwo : freeNumber? ["plan", "plan (1)", "plan (3)"] "plan" = some 2 := by decide +kernel
  obtain rfl := Option.some.inj (hn.symm.trans htwo)
  exact ⟨hleft, hname.trans (by decide +kernel), hleast⟩

/-- A name that is taken with all its numbered names up to the greatest number of 32 bits gets no
other name, though there are free ones. -/
theorem not_namedAfresh_of_all_taken : ¬NamedAfresh
    ("plan" :: (List.range' 1 2147483647).map fun n : Nat => numberedName "plan" n) "plan" := by
  intro h
  have htaken : TakenBelow ("plan" :: (List.range' 1 2147483647).map fun n : Nat =>
      numberedName "plan" n) "plan" 2147483647 := by
    intro k hk hlt
    obtain ⟨n, rfl⟩ := Int.eq_ofNat_of_zero_le (by omega : 0 ≤ k)
    exact List.mem_cons_of_mem _ (List.mem_map.2 ⟨n, List.mem_range'_1.2 (by omega), rfl⟩)
  obtain ⟨n, hn, -⟩ := h.numbered List.mem_cons_self
  rw [freeNumber?_eq_none_iff.2 htaken] at hn
  cases hn

/-! ### Look-ups -/

namespace Registry

variable {g : Registry}

theorem hasSheet_iff {id : Nat} : g.hasSheet id = true ↔ ∃ s ∈ g.sheets, s.id = id := by
  simp [hasSheet]

theorem isAt_iff {s : Sheet} {a : SheetAddress} : s.isAt a = true ↔ s.address = a := by
  obtain ⟨publisher, name⟩ := a
  simp [Sheet.isAt, Sheet.address]

theorem mem_of_findSheet? {a : SheetAddress} {s : Sheet} (h : g.findSheet? a = some s) :
    s ∈ g.sheets ∧ s.address = a := by
  unfold findSheet? at h
  exact ⟨List.mem_of_find?_eq_some h, isAt_iff.1 (by simpa using List.find?_some h)⟩

@[simp] theorem hasSheet_addPublisher (p : String) (id : Nat) :
    (g.addPublisher p).hasSheet id = g.hasSheet id := rfl

@[simp] theorem hasSheet_noteUpdate (n id : Nat) :
    (g.noteUpdate n).hasSheet id = g.hasSheet id := rfl

theorem hasSheet_addSheet (a : SheetAddress) (v : Visibility) (id : Nat) :
    (g.addSheet a v).hasSheet id = (g.hasSheet id || g.lastSheetId + 1 == id) := by
  simp [hasSheet, addSheet, nextSheet]

theorem hasSheet_removeSheet (id id' : Nat) :
    (g.removeSheet id).hasSheet id' = (g.hasSheet id' && id' != id) := by
  rw [Bool.eq_iff_iff]
  simp only [hasSheet_iff, removeSheet, List.mem_filter, Bool.and_eq_true, bne_iff_ne]
  constructor
  · rintro ⟨s, ⟨hs, hne⟩, rfl⟩
    exact ⟨⟨s, hs, rfl⟩, hne⟩
  · rintro ⟨⟨s, hs, rfl⟩, hne⟩
    exact ⟨s, ⟨hs, hne⟩, rfl⟩

/-! ### Soundness -/

/-- What holds of the sheets and of the next one holds of all sheets when it is added. -/
theorem forall_mem_addSheet {p : Sheet → Prop} {a : SheetAddress} {v : Visibility}
    (hold : ∀ s ∈ g.sheets, p s) (hnext : p (g.nextSheet a v)) :
    ∀ s ∈ (g.addSheet a v).sheets, p s := by
  intro s hs
  rcases List.mem_append.1 hs with hs | hs
  · exact hold s hs
  · rw [List.mem_singleton.1 hs]
    exact hnext

/-- What holds of every registry. -/
structure Sound (g : Registry) : Prop where
  /-- Publishers are listed once. -/
  publishers : g.publishers.Nodup
  /-- Sheets stand in the order of their numbers. -/
  ascending : g.sheets.Pairwise (·.id < ·.id)
  /-- No sheet has the number zero. -/
  id_pos : ∀ s ∈ g.sheets, 0 < s.id
  /-- The registry remembers the last number. -/
  id_le : ∀ s ∈ g.sheets, s.id ≤ g.lastSheetId
  /-- Owners are listed. -/
  owners : ∀ s ∈ g.sheets, g.knows s.owner = true
  /-- No two sheets have one address. -/
  addresses : g.sheets.Pairwise (·.address ≠ ·.address)

namespace Sound

theorem empty : Sound {} := by
  constructor <;> simp

theorem addPublisher (h : g.Sound) {p : String} (hp : g.knows p = false) :
    (g.addPublisher p).Sound where
  publishers := by
    refine List.nodup_append.2 ⟨h.publishers, by simp, fun q hq r hr heq => ?_⟩
    rw [List.mem_singleton.1 hr] at heq
    subst heq
    simp [knows, hq] at hp
  ascending := h.ascending
  id_pos := h.id_pos
  id_le := h.id_le
  owners s hs := by
    have := h.owners s hs
    simp only [knows, Registry.addPublisher, List.contains_eq_mem, List.mem_append,
      decide_eq_true_eq] at this ⊢
    exact .inl this
  addresses := h.addresses

theorem noteUpdate (h : g.Sound) (id : Nat) : (g.noteUpdate id).Sound := { h with }

theorem addSheet (h : g.Sound) {a : SheetAddress} (v : Visibility)
    (howner : g.knows a.publisher = true) (hfree : ∀ s ∈ g.sheets, s.address ≠ a) :
    (g.addSheet a v).Sound where
  publishers := h.publishers
  ascending := by
    refine List.pairwise_append.2 ⟨h.ascending, by simp, fun s hs t ht => ?_⟩
    rw [List.mem_singleton.1 ht]
    exact Nat.lt_succ_of_le (h.id_le s hs)
  id_pos := forall_mem_addSheet h.id_pos (Nat.succ_pos _)
  id_le := forall_mem_addSheet (fun s hs => Nat.le_succ_of_le (h.id_le s hs)) (Nat.le_refl _)
  owners := forall_mem_addSheet h.owners howner
  addresses := by
    refine List.pairwise_append.2 ⟨h.addresses, by simp, fun s hs t ht => ?_⟩
    rw [List.mem_singleton.1 ht]
    exact hfree s hs

theorem removeSheet (h : g.Sound) (id : Nat) : (g.removeSheet id).Sound where
  publishers := h.publishers
  ascending := h.ascending.filter _
  id_pos s hs := h.id_pos s (List.mem_filter.1 hs).1
  id_le s hs := h.id_le s (List.mem_filter.1 hs).1
  owners s hs := h.owners s (List.mem_filter.1 hs).1
  addresses := h.addresses.filter _

theorem le_of_hasSheet (h : g.Sound) {id : Nat} (hid : g.hasSheet id = true) :
    id ≤ g.lastSheetId := by
  obtain ⟨s, hs, rfl⟩ := hasSheet_iff.1 hid
  exact h.id_le s hs

/-- A sheet is known by its number. -/
theorem eq_of_id_eq (h : g.Sound) {s t : Sheet} (hs : s ∈ g.sheets) (ht : t ∈ g.sheets)
    (hid : s.id = t.id) : s = t := by
  have : Std.Symm fun s t : Sheet => s.id ≠ t.id := ⟨fun _ _ => Ne.symm⟩
  have hdistinct : g.sheets.Pairwise (·.id ≠ ·.id) := h.ascending.imp Nat.ne_of_lt
  exact Classical.byContradiction fun hne => hdistinct.forall hs ht hne hid

/-- A sheet is known by its address. -/
theorem eq_of_address_eq (h : g.Sound) {s t : Sheet} (hs : s ∈ g.sheets) (ht : t ∈ g.sheets)
    (haddress : s.address = t.address) : s = t := by
  have : Std.Symm fun s t : Sheet => s.address ≠ t.address := ⟨fun _ _ => Ne.symm⟩
  exact Classical.byContradiction fun hne => h.addresses.forall hs ht hne haddress

/-- **Every sheet is found under its address.** -/
theorem findSheet?_address (h : g.Sound) {s : Sheet} (hs : s ∈ g.sheets) :
    g.findSheet? s.address = some s := by
  cases hfound : g.findSheet? s.address with
  | none =>
    have := List.find?_eq_none.1 hfound s hs
    exact absurd (isAt_iff.2 rfl) this
  | some t =>
    obtain ⟨ht, haddress⟩ := mem_of_findSheet? hfound
    rw [h.eq_of_address_eq ht hs haddress]

end Sound

end Registry

end SharedSheet
