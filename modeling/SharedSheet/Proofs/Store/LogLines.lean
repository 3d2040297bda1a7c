import Mathlib.Data.List.Forall2
import SharedSheet.Proofs.Text.Pieces
import SharedSheet.Store.LogFile

/-!
# The lines of a log that are lost

A log is read line by line, and the line that cannot be read decides what happens by its place
alone: the last one is dropped, any other one makes the log unreadable. A line that was torn by a
program that stopped in the middle of a write is the last one, and it has no newline. The place is
looked at and the newline is not, so a last line is dropped also if its newline tells that it was
finished. That is the only way in which a finished line is lost.

## Main definitions

* `LogFile.entryLines`, `LogFile.finishedLines` — the lines that are not blank, and those of them
  that a newline ends
* `LogFile.Hold` — lines that hold entries
* `LogFile.KeepsFinishedLines` — what a reader may expect of a log
* `LogFile.DropsFinishedLine` — a finished line at the end that holds no entry

## Main results

* `LogFile.parse_eq_ok_iff` — what is read from a text
* `LogFile.keepsFinishedLines_iff` — the expectation fails just where a finished line is dropped
-/

namespace SharedSheet.LogFile

variable {s : String} {lines : List (List Char)} {es : List LogEntry} {torn torn' : Bool}

/-! ### Lines -/

/-- The lines that have to hold entries. -/
def entryLines (s : String) : List (List Char) :=
  (Text.lines s.toList).filter (!Text.isAllBlank ·)

/-- The lines that have to hold entries and are ended by a newline. -/
def finishedLines (s : String) : List (List Char) :=
  ((Text.splitAtNewlines s.toList).dropLast.map (Text.withoutFinal '\r')).filter
    (!Text.isAllBlank ·)

/-- What follows the last newline of a text. -/
def unfinished (s : String) : List Char := (Text.splitAtNewlines s.toList).getLast?.getD []

/-- Only what follows the last newline is no finished line. -/
theorem entryLines_eq (s : String) :
    entryLines s = finishedLines s ++ [unfinished s].filter (!Text.isAllBlank ·) := by
  have hlast := List.getLast?_eq_some_getLast (Text.splitAtNewlines_ne_nil s.toList)
  rw [entryLines, finishedLines, unfinished, ← List.filter_append, Text.lines, hlast,
    Option.getD_some]
  generalize (Text.splitAtNewlines s.toList).getLast _ = piece
  cases piece with
  | nil => simp [Text.isAllBlank]
  | cons c piece => rfl

/-- Nothing follows the last newline of a text that ends in one. -/
theorem unfinished_eq_nil (h : endsTorn s.toList = false) : unfinished s = [] := by
  unfold endsTorn at h
  split at h
  · rename_i hlast
    rw [unfinished, List.getLast?_eq_none_iff.1 hlast]
    rfl
  · rename_i hlast
    rw [unfinished, Text.splitAtNewlines_eq_of_getLast? hlast]
    simp
  · simp at h

theorem entryLines_eq_finishedLines (h : endsTorn s.toList = false) :
    entryLines s = finishedLines s := by
  rw [entryLines_eq, unfinished_eq_nil h]
  simp [Text.isAllBlank]

/-! ### What is read -/

/-- Lines that hold entries, each line one. -/
def Hold (lines : List (List Char)) (es : List LogEntry) : Prop :=
  List.Forall₂ (fun line e => parseLine line = .ok e) lines es

/-- Entries in the order of their numbers. -/
def inOrder (es : List LogEntry) : List LogEntry := es.mergeSort fun a b => a.id ≤ b.id

theorem not_hold_of_error {line : List Char} (hline : line ∈ lines) {fault : Json.Fault}
    (hfault : parseLine line = .error fault) : ¬ Hold lines es := by
  intro h
  induction h with
  | nil => simp at hline
  | cons hhead _ ih =>
    rcases List.mem_cons.1 hline with rfl | hline
    · rw [hhead] at hfault
      simp at hfault
    · exact ih hline

theorem parseLines_cons_of_ok {line : List Char} {e : LogEntry} (hline : parseLine line = .ok e) :
    parseLines torn (line :: lines) = .ok (es, torn') ↔
      ∃ fs, es = e :: fs ∧ parseLines torn lines = .ok (fs, torn') := by
  simp only [parseLines, hline]
  cases parseLines torn lines with
  | error fault => simp
  | ok found =>
    obtain ⟨fs, torn''⟩ := found
    simp only [Except.ok.injEq, Prod.mk.injEq]
    constructor
    · rintro ⟨rfl, rfl⟩
      exact ⟨fs, rfl, rfl, rfl⟩
    · rintro ⟨fs, rfl, rfl, rfl⟩
      exact ⟨rfl, rfl⟩

theorem parseLines_cons_of_error {line : List Char} {fault : Json.Fault}
    (hline : parseLine line = .error fault) :
    parseLines torn (line :: lines) = .ok (es, torn') ↔ lines = [] ∧ es = [] ∧ torn' = true := by
  cases lines <;> simp [parseLines, hline, eq_comm]

theorem hold_cons_of_ok {line : List Char} {e : LogEntry} (hline : parseLine line = .ok e) :
    Hold (line :: lines) es ↔ ∃ fs, es = e :: fs ∧ Hold lines fs := by
  constructor
  · intro h
    obtain ⟨e', fs, he', hfs, rfl⟩ := List.forall₂_cons_left_iff.1 h
    obtain rfl : e = e' := Except.ok.inj (hline.symm.trans he')
    exact ⟨fs, rfl, hfs⟩
  · rintro ⟨fs, rfl, hfs⟩
    exact .cons hline hfs

/-- Lines that hold entries, and after them one that holds none. -/
def HoldButLast (lines : List (List Char)) (es : List LogEntry) : Prop :=
  ∃ ls last fault, lines = ls ++ [last] ∧ Hold ls es ∧ parseLine last = .error fault

theorem holdButLast_cons_of_ok {line : List Char} {e : LogEntry} (hline : parseLine line = .ok e) :
    HoldButLast (line :: lines) es ↔ ∃ fs, es = e :: fs ∧ HoldButLast lines fs := by
  constructor
  · rintro ⟨_ | ⟨l, ls⟩, last, fault, hlines, hes, hlast⟩
    · obtain ⟨rfl, -⟩ := List.cons.inj hlines
      rw [hline] at hlast
      simp at hlast
    · obtain ⟨rfl, rfl⟩ := List.cons.inj hlines
      obtain ⟨fs, rfl, hfs⟩ := (hold_cons_of_ok hline).1 hes
      exact ⟨fs, rfl, ls, last, fault, rfl, hfs, hlast⟩
  · rintro ⟨fs, rfl, ls, last, fault, rfl, hfs, hlast⟩
    exact ⟨line :: ls, last, fault, rfl, .cons hline hfs, hlast⟩

theorem holdButLast_cons_of_error {line : List Char} {fault : Json.Fault}
    (hline : parseLine line = .error fault) :
    HoldButLast (line :: lines) es ↔ lines = [] ∧ es = [] := by
  constructor
  · rintro ⟨_ | ⟨l, ls⟩, last, fault', hlines, hes, hlast⟩
    · obtain ⟨rfl, rfl⟩ := List.cons.inj hlines
      exact ⟨rfl, List.forall₂_nil_left_iff.1 hes⟩
    · obtain ⟨rfl, -⟩ := List.cons.inj hlines
      exact absurd hes (not_hold_of_error List.mem_cons_self hline)
  · rintro ⟨rfl, rfl⟩
    exact ⟨[], line, fault, rfl, .nil, hline⟩

/-- **What is read from lines**: their entries, or the entries of all but the last one. -/
theorem parseLines_eq_ok_iff : parseLines torn lines = .ok (es, torn') ↔
    Hold lines es ∧ torn' = torn ∨ HoldButLast lines es ∧ torn' = true := by
  induction lines generalizing es with
  | nil =>
    constructor
    · intro h
      obtain ⟨rfl, rfl⟩ := Prod.mk.inj (Except.ok.inj h)
      exact .inl ⟨.nil, rfl⟩
    · rintro (⟨⟨⟩, rfl⟩ | ⟨⟨ls, last, fault, hlines, -⟩, -⟩)
      · rfl
      · simp at hlines
  | cons line lines ih =>
    cases hline : parseLine line with
    | error fault =>
      have hnone : ¬ Hold (line :: lines) es := not_hold_of_error List.mem_cons_self hline
      simp only [parseLines_cons_of_error hline, holdButLast_cons_of_error hline, hnone, false_and,
        false_or, and_assoc]
    | ok e =>
      simp only [parseLines_cons_of_ok hline, hold_cons_of_ok hline, holdButLast_cons_of_ok hline,
        ih]
      constructor
      · rintro ⟨fs, rfl, ⟨hfs, htorn⟩ | ⟨hfs, htorn⟩⟩
        · exact .inl ⟨⟨fs, rfl, hfs⟩, htorn⟩
        · exact .inr ⟨⟨fs, rfl, hfs⟩, htorn⟩
      · rintro (⟨⟨fs, rfl, hfs⟩, htorn⟩ | ⟨⟨fs, rfl, hfs⟩, htorn⟩)
        · exact ⟨fs, rfl, .inl ⟨hfs, htorn⟩⟩
        · exact ⟨fs, rfl, .inr ⟨hfs, htorn⟩⟩

/-- What is read from a text. -/
theorem parse_eq_ok_iff : parse s = .ok (es, torn) ↔ ∃ fs, es = inOrder fs ∧
    (Hold (entryLines s) fs ∧ torn = endsTorn s.toList ∨
      HoldButLast (entryLines s) fs ∧ torn = true) := by
  simp only [← parseLines_eq_ok_iff]
  unfold parse entryLines
  cases parseLines (endsTorn s.toList) ((Text.lines s.toList).filter (!Text.isAllBlank ·)) with
  | error fault => simp
  | ok found =>
    obtain ⟨fs, torn'⟩ := found
    simp only [Except.ok.injEq, Prod.mk.injEq]
    constructor
    · rintro ⟨rfl, rfl⟩
      exact ⟨fs, rfl, rfl, rfl⟩
    · rintro ⟨_, rfl, rfl, rfl⟩
      exact ⟨rfl, rfl⟩

/-! ### Finished lines -/

/-- What a reader may expect of a log: at most the line that a newline does not end is dropped. -/
structure KeepsFinishedLines (s : String) : Prop where
  /-- A text that ends in a newline, or has nothing to end, is refused or read as a whole, and
  nothing is torn. -/
  ended : endsTorn s.toList = false → (∃ fault, parse s = .error fault) ∨
    ∃ es, Hold (entryLines s) es ∧ parse s = .ok (inOrder es, false)
  /-- Any other text is refused, read as a whole, or read up to its last newline. -/
  unended : endsTorn s.toList = true → (∃ fault, parse s = .error fault) ∨
    ∃ es, (Hold (entryLines s) es ∨ Hold (finishedLines s) es) ∧ parse s = .ok (inOrder es, true)

/-- A log whose last line that is not blank is finished and holds no entry, while every other line
does. -/
def DropsFinishedLine (s : String) : Prop :=
  entryLines s = finishedLines s ∧ ∃ es, HoldButLast (finishedLines s) es

/-- A finished line is dropped as if it were torn. -/
theorem DropsFinishedLine.not_keepsFinishedLines (h : DropsFinishedLine s) :
    ¬ KeepsFinishedLines s := by
  intro hkeeps
  obtain ⟨hfinished, es, hes⟩ := h
  have hparse : parse s = .ok (inOrder es, true) :=
    parse_eq_ok_iff.2 ⟨es, rfl, .inr ⟨hfinished ▸ hes, rfl⟩⟩
  obtain ⟨ls, last, fault, hlines, -, hlast⟩ := hes
  have hunread : ∀ {fs}, ¬ Hold (finishedLines s) fs :=
    fun {fs} => not_hold_of_error (by simp [hlines]) hlast
  cases hends : endsTorn s.toList with
  | false =>
    rcases hkeeps.ended hends with ⟨fault', herror⟩ | ⟨fs, hfs, -⟩
    · rw [hparse] at herror
      simp at herror
    · exact hunread (hfinished ▸ hfs)
  | true =>
    rcases hkeeps.unended hends with ⟨fault', herror⟩ | ⟨fs, hfs | hfs, -⟩
    · rw [hparse] at herror
      simp at herror
    · exact hunread (hfinished ▸ hfs)
    · exact hunread hfs

/-- What is dropped elsewhere is what follows the last newline. -/
theorem hold_finishedLines (hdrops : ¬ DropsFinishedLine s) (h : HoldButLast (entryLines s) es) :
    endsTorn s.toList = true ∧ Hold (finishedLines s) es := by
  have hne : entryLines s ≠ finishedLines s := fun hfinished =>
    hdrops ⟨hfinished, es, hfinished ▸ h⟩
  refine ⟨eq_true_of_ne_false fun hends => hne (entryLines_eq_finishedLines hends), ?_⟩
  obtain ⟨ls, last, fault, hlines, hes, -⟩ := h
  rw [entryLines_eq] at hne hlines
  cases hblank : Text.isAllBlank (unfinished s) with
  | true => simp [hblank] at hne
  | false =>
    rw [List.filter_cons_of_pos (by simp [hblank]), List.filter_nil] at hlines
    rwa [(List.append_inj' hlines rfl).1]

/-- **Only a finished line at the end is lost.** A log keeps its finished lines unless the last of
its lines is finished and holds no entry, while all others do. In that case the entries of all other
lines are read, and the log counts as torn. -/
theorem keepsFinishedLines_iff (s : String) : (KeepsFinishedLines s ↔ ¬ DropsFinishedLine s) ∧
    ∀ es, HoldButLast (entryLines s) es → parse s = .ok (inOrder es, true) := by
  refine ⟨⟨fun hkeeps hdrops => hdrops.not_keepsFinishedLines hkeeps, fun hdrops => ?_⟩,
    fun es hes => parse_eq_ok_iff.2 ⟨es, rfl, .inr ⟨hes, rfl⟩⟩⟩
  cases hparse : parse s with
  | error fault =>
    have hrefused : ∃ fault, parse s = .error fault := ⟨fault, hparse⟩
    exact ⟨fun _ => .inl hrefused, fun _ => .inl hrefused⟩
  | ok found =>
    obtain ⟨_, torn⟩ := found
    obtain ⟨fs, rfl, ⟨hfs, rfl⟩ | ⟨hfs, rfl⟩⟩ := parse_eq_ok_iff.1 hparse
    · constructor
      · intro hends
        exact .inr ⟨fs, hfs, hends ▸ hparse⟩
      · intro hends
        exact .inr ⟨fs, .inl hfs, hends ▸ hparse⟩
    · obtain ⟨htorn, hfinished⟩ := hold_finishedLines hdrops hfs
      constructor
      · intro hends
        rw [htorn] at hends
        simp at hends
      · intro _
        exact .inr ⟨fs, .inr hfinished, hparse⟩

/-- A finished line that holds no entry is dropped, and the log counts as torn. -/
theorem not_forall_keepsFinishedLines : ¬ ∀ s, KeepsFinishedLines s := by
  intro h
  have hunread : parseLine "garbage".toList = .error .syntaxError := by decide +kernel
  have hlines : finishedLines "garbage\n" = ["garbage".toList] := by decide
  have hdrops : DropsFinishedLine "garbage\n" :=
    ⟨by decide, [], [], "garbage".toList, .syntaxError, hlines, .nil, hunread⟩
  exact hdrops.not_keepsFinishedLines (h _)

end SharedSheet.LogFile
