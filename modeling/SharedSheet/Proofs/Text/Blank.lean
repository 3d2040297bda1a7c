import Mathlib.Data.List.DropRight
import SharedSheet.Text.Blank

/-!
# Texts without the blanks at their ends

Blanks at either end of a text make no difference to its trimmed text, and a text is its own
trimmed text unless it starts or ends with a blank. All that is known of trimming follows from these
two, so nothing else needs to look at how it is done.

## Main results

* `Text.trim_blanks_append`, `Text.trim_append_blanks` — blanks at the ends make no difference
* `Text.trim_eq_self_iff` — which texts are their own trimmed texts
* `Text.exists_blanks_trim` — a text is its trimmed text between blanks
-/

namespace SharedSheet.Text

variable {cs before after : List Char}

/-! ### Blanks around a text -/

theorem trim_isPrefix (cs : List Char) : trim cs <+: trimStart cs := List.rdropWhile_prefix _ _

/-- A text is its trimmed text between blanks. -/
theorem exists_blanks_trim (cs : List Char) : ∃ before after, cs = before ++ (trim cs ++ after) ∧
    (∀ c ∈ before, isBlank c = true) ∧ ∀ c ∈ after, isBlank c = true := by
  refine ⟨cs.takeWhile isBlank, ((trimStart cs).reverse.takeWhile isBlank).reverse, ?_,
    fun _ hc => List.mem_takeWhile_imp hc,
    fun _ hc => List.mem_takeWhile_imp (List.mem_reverse.1 hc)⟩
  rw [trim, ← List.reverse_append, List.takeWhile_append_dropWhile, List.reverse_reverse,
    trimStart, List.takeWhile_append_dropWhile]

theorem mem_of_mem_trim {c : Char} (h : c ∈ trim cs) : c ∈ cs := by
  obtain ⟨before, after, hcs, -⟩ := exists_blanks_trim cs
  rw [hcs]
  simp [h]

theorem trim_blanks_append (hbefore : ∀ c ∈ before, isBlank c = true) (cs : List Char) :
    trim (before ++ cs) = trim cs := by
  rw [trim, trimStart, List.dropWhile_append_of_pos hbefore]
  rfl

theorem trim_append_blanks (cs : List Char) (hafter : ∀ c ∈ after, isBlank c = true) :
    trim (cs ++ after) = trim cs := by
  have hreverse : ∀ c ∈ after.reverse, isBlank c = true := fun c hc =>
    hafter c (List.mem_reverse.1 hc)
  rw [trim, trimStart, List.dropWhile_append]
  split
  · next hall =>
    -- Nothing is left of either text.
    rw [trim, trimStart, List.isEmpty_iff.1 hall, List.dropWhile_eq_nil_iff.2 hafter]
  · rw [List.reverse_append, List.dropWhile_append_of_pos hreverse]
    rfl

/-! ### Trimmed texts -/

@[simp] theorem trimStart_trim (cs : List Char) : trimStart (trim cs) = trim cs := by
  have hstart := trim_isPrefix cs
  cases htrim : trim cs with
  | nil => rfl
  | cons c cs' =>
    obtain ⟨rest, hrest⟩ := htrim ▸ hstart
    have hhead := List.head?_dropWhile_not isBlank cs
    rw [show cs.dropWhile isBlank = _ from hrest.symm] at hhead
    exact List.dropWhile_cons_of_neg (by simpa using hhead)

@[simp] theorem trim_trim (cs : List Char) : trim (trim cs) = trim cs := by
  rw [trim, trimStart_trim]
  exact List.rdropWhile_idempotent isBlank (trimStart cs)

theorem trimmed_trimmed (s : String) : trimmed (trimmed s) = trimmed s := by
  simp [trimmed]

/-- **A text is its own trimmed text** just when no blank stands at either end. -/
theorem trim_eq_self_iff : trim cs = cs ↔
    (∀ c ∈ cs.head?, isBlank c = false) ∧ ∀ c ∈ cs.getLast?, isBlank c = false := by
  have hstart : trimStart cs = cs ↔ ∀ c ∈ cs.head?, isBlank c = false := by
    cases cs with
    | nil => simp [trimStart]
    | cons c cs => simp [trimStart, List.dropWhile_eq_self_iff]
  have hend : cs.rdropWhile isBlank = cs ↔ ∀ c ∈ cs.getLast?, isBlank c = false := by
    rw [List.rdropWhile_eq_self_iff]
    cases cs <;> simp [List.getLast?_eq_some_getLast]
  rw [← hstart, ← hend]
  constructor
  · intro h
    have hcs : trimStart cs = cs := by rw [← h, trimStart_trim]
    rw [trim, hcs] at h
    exact ⟨hcs, h⟩
  · rintro ⟨hcs, h⟩
    rw [trim, hcs]
    exact h

/-- A text without blanks between blanks. -/
theorem trim_append_append (hbefore : ∀ c ∈ before, isBlank c = true)
    (hclear : ∀ c ∈ cs, isBlank c = false) (hafter : ∀ c ∈ after, isBlank c = true) :
    trim (before ++ (cs ++ after)) = cs := by
  rw [trim_blanks_append hbefore, trim_append_blanks cs hafter]
  exact trim_eq_self_iff.2 ⟨fun c hc => hclear c (List.mem_of_head? hc),
    fun c hc => hclear c (List.mem_of_getLast? hc)⟩

end SharedSheet.Text
