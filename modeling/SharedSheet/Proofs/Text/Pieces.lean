import SharedSheet.Text.Lines

/-!
# Cutting at newlines, as a homomorphism

Payloads and logs are both texts that are put together from ended lines and cut into lines again.
Everything that is proved about them rests on one fact: a newline separates what stands before it
from what follows it, so cutting turns the one into a list in front of the other.

`Text.splitAtNewlines` makes a cut at *every* newline and keeps the piece after the last one, also
when it is empty. That is why the laws below have no side conditions. `Text.lines`, which drops
that last piece, is only used on texts whose lines are all ended.

## Main results

* `Text.splitAtNewlines_append_newline` — the pieces of two texts with a newline between them
* `Text.splitAtNewlines_of_not_mem`, `Text.newline_not_mem_piece` — pieces have no newlines
* `Text.lines_flatMap_ended` — the lines of ended lines
-/

namespace SharedSheet.Text

/-! ### Pieces -/

@[simp] theorem splitAtNewlines_nil : splitAtNewlines [] = [[]] := rfl

@[simp] theorem splitAtNewlines_newline_cons (cs : List Char) :
    splitAtNewlines ('\n' :: cs) = [] :: splitAtNewlines cs := rfl

/-- A character that is no newline goes in front of the first piece. -/
theorem splitAtNewlines_cons_of_ne {c : Char} (h : c ≠ '\n') (cs : List Char) :
    splitAtNewlines (c :: cs) = (splitAtNewlines cs).modifyHead (c :: ·) := by
  simp [splitAtNewlines, h]

theorem splitAtNewlines_ne_nil (cs : List Char) : splitAtNewlines cs ≠ [] := by
  simp [splitAtNewlines]

/-- **Cutting is a homomorphism**: the newline belongs to neither side. -/
theorem splitAtNewlines_append_newline (cs ds : List Char) :
    splitAtNewlines (cs ++ '\n' :: ds) = splitAtNewlines cs ++ splitAtNewlines ds := by
  induction cs with
  | nil => simp
  | cons c cs ih =>
    by_cases hc : c = '\n'
    · subst hc
      simp [ih]
    · rw [List.cons_append, splitAtNewlines_cons_of_ne hc, splitAtNewlines_cons_of_ne hc, ih]
      obtain ⟨piece, pieces, h⟩ := List.exists_cons_of_ne_nil (splitAtNewlines_ne_nil cs)
      simp [h]

theorem splitAtNewlines_of_not_mem {cs : List Char} (h : '\n' ∉ cs) :
    splitAtNewlines cs = [cs] := by
  induction cs with
  | nil => rfl
  | cons c cs ih =>
    obtain ⟨hc, hcs⟩ := not_or.1 (mt List.mem_cons.2 h)
    rw [splitAtNewlines_cons_of_ne (Ne.symm hc), ih hcs]
    rfl

theorem newline_not_mem_piece {cs piece : List Char} (h : piece ∈ splitAtNewlines cs) :
    '\n' ∉ piece := by
  induction cs generalizing piece with
  | nil => simp_all
  | cons c cs ih =>
    by_cases hc : c = '\n'
    · subst hc
      rcases List.mem_cons.1 (splitAtNewlines_newline_cons cs ▸ h) with rfl | h
      · simp
      · exact ih h
    · obtain ⟨first, pieces, hcs⟩ := List.exists_cons_of_ne_nil (splitAtNewlines_ne_nil cs)
      rw [splitAtNewlines_cons_of_ne hc, hcs, List.modifyHead_cons] at h
      rcases List.mem_cons.1 h with rfl | h
      · have := @ih first (by simp [hcs])
        simp [this, Ne.symm hc]
      · exact ih (by simp [hcs, h])

/-- Nothing is in a piece that is not in the text. -/
theorem mem_of_mem_piece {cs piece : List Char} (h : piece ∈ splitAtNewlines cs) {c : Char}
    (hc : c ∈ piece) : c ∈ cs := by
  induction cs generalizing piece with
  | nil => simp_all
  | cons d cs ih =>
    by_cases hd : d = '\n'
    · subst hd
      rcases List.mem_cons.1 (splitAtNewlines_newline_cons cs ▸ h) with rfl | h
      · simp at hc
      · exact List.mem_cons_of_mem _ (ih h hc)
    · obtain ⟨first, pieces, hcs⟩ := List.exists_cons_of_ne_nil (splitAtNewlines_ne_nil cs)
      rw [splitAtNewlines_cons_of_ne hd, hcs, List.modifyHead_cons] at h
      rcases List.mem_cons.1 h with rfl | h
      · rcases List.mem_cons.1 hc with rfl | hc
        · exact List.mem_cons_self
        · exact List.mem_cons_of_mem _ (ih (by simp [hcs]) hc)
      · exact List.mem_cons_of_mem _ (ih (by simp [hcs, h]) hc)

/-! ### A final character -/

@[simp] theorem withoutFinal_nil (c : Char) : withoutFinal c [] = [] := rfl

@[simp] theorem withoutFinal_concat (c : Char) (cs : List Char) :
    withoutFinal c (cs ++ [c]) = cs := by
  simp [withoutFinal]

theorem withoutFinal_of_ne {c : Char} {cs : List Char} (h : cs.getLast? ≠ some c) :
    withoutFinal c cs = cs := by
  simp [withoutFinal, h]

/-- Taking off a final character takes off nothing else. -/
theorem withoutFinal_eq_self_iff {c : Char} {cs : List Char} :
    withoutFinal c cs = cs ↔ cs.getLast? ≠ some c := by
  refine ⟨fun h hlast => ?_, withoutFinal_of_ne⟩
  obtain ⟨ds, rfl⟩ := List.getLast?_eq_some_iff.1 hlast
  rw [withoutFinal_concat] at h
  simpa using congrArg List.length h

theorem mem_of_mem_withoutFinal {c d : Char} {cs : List Char} (h : d ∈ withoutFinal c cs) :
    d ∈ cs := by
  unfold withoutFinal at h
  split at h
  · exact (List.dropLast_sublist cs).mem h
  · exact h

/-- The final newline of a text only adds an empty piece. -/
theorem splitAtNewlines_eq_of_getLast? {cs : List Char} (h : cs.getLast? = some '\n') :
    splitAtNewlines cs = splitAtNewlines (withoutFinal '\n' cs) ++ [[]] := by
  obtain ⟨ds, rfl⟩ := List.getLast?_eq_some_iff.1 h
  rw [withoutFinal_concat, splitAtNewlines_append_newline, splitAtNewlines_nil]

/-! ### Ended lines -/

/-- Ended lines are pieces, whatever comes after them. -/
theorem splitAtNewlines_flatMap_ended_append {ls : List (List Char)} (h : ∀ l ∈ ls, '\n' ∉ l)
    (cs : List Char) :
    splitAtNewlines (ls.flatMap (· ++ ['\n']) ++ cs) = ls ++ splitAtNewlines cs := by
  induction ls with
  | nil => rfl
  | cons l ls ih =>
    rw [List.flatMap_cons, List.append_assoc, List.append_assoc, List.singleton_append,
      splitAtNewlines_append_newline, splitAtNewlines_of_not_mem (h l (by simp)),
      ih fun l' hl' => h l' (List.mem_cons_of_mem _ hl')]
    rfl

theorem splitAtNewlines_flatMap_ended {ls : List (List Char)} (h : ∀ l ∈ ls, '\n' ∉ l) :
    splitAtNewlines (ls.flatMap (· ++ ['\n'])) = ls ++ [[]] := by
  simpa using splitAtNewlines_flatMap_ended_append h []

theorem map_withoutFinal_of_not_mem {c : Char} {ls : List (List Char)} (h : ∀ l ∈ ls, c ∉ l) :
    ls.map (withoutFinal c) = ls :=
  (List.map_congr_left fun l hl => withoutFinal_of_ne fun hlast =>
    h l hl (List.mem_of_getLast? hlast)).trans (List.map_id ls)

/-- Lines that hold neither a newline nor a carriage return are the lines of the text that ends
each of them with a newline. -/
theorem lines_flatMap_ended {ls : List (List Char)} (hn : ∀ l ∈ ls, '\n' ∉ l)
    (hr : ∀ l ∈ ls, '\r' ∉ l) : lines (ls.flatMap (· ++ ['\n'])) = ls := by
  simp [lines, splitAtNewlines_flatMap_ended hn, map_withoutFinal_of_not_mem hr]

/-- What comes after them without a newline is one more line. -/
theorem lines_flatMap_ended_append {ls : List (List Char)} (hn : ∀ l ∈ ls, '\n' ∉ l)
    (hr : ∀ l ∈ ls, '\r' ∉ l) {cs : List Char} (hcs : '\n' ∉ cs) (hne : cs ≠ []) :
    lines (ls.flatMap (· ++ ['\n']) ++ cs) = ls ++ [cs] := by
  obtain ⟨c, cs, rfl⟩ := List.exists_cons_of_ne_nil hne
  simp [lines, splitAtNewlines_flatMap_ended_append hn, splitAtNewlines_of_not_mem hcs,
    map_withoutFinal_of_not_mem hr]

end SharedSheet.Text
