import SharedSheet.Proofs.Reference.Spelling
import SharedSheet.Proofs.Text.Pieces
import SharedSheet.Worksheet.Window

/-!
# What a window shows

The rows and columns of a window run from its first cell on, and are cut short at the extent. So the
first cell is shown if it lies inside the extent, and then it is shown first: its column heads the
line of letters, and its row is the line after that one.

What is shown is always a page of a run of rows and a run of columns. The runs are as long as the
window asks for, unless it asks for none: then a row or a column is shown all the same, if there is
one. The line of letters ends at the first newline and is empty just when there is no column, and
what comes after is empty just when there is no row, so a text is a page without rows or without
columns in one way only.

## Main definitions

* `Window.ShowsFirst` — a text that starts with a cell
* `Window.IsRun` — the numbers from one number on, so many of them, up to a limit
* `Window.page` — the text of certain rows and columns
* `Window.Shows` — a text of just the rows and columns that a window asks for

## Main results

* `Window.span_eq_cons` — the numbers that are shown start with the first one
* `Worksheet.showsFirst_show` — a window starts with its first cell
* `Window.isRun_span` — the numbers that are shown are a run
* `Worksheet.show_exact` — what is shown, and when it is what the window asks for
-/

namespace SharedSheet

namespace Window

/-- From a number within the limit on, that number is shown first. -/
theorem span_eq_cons {first limit : UInt32} (h : first ≤ limit) (count : UInt32) :
    ∃ more, span first count limit = first.toNat :: more := by
  have hle := UInt32.le_iff_toNat_le.1 h
  have hlt := first.toNat_lt
  have hsize : UInt32.size = 4294967296 := rfl
  obtain ⟨n, hn⟩ : ∃ n, min (min (first.toNat + (count.toNat - 1)) (UInt32.size - 1)) limit.toNat +
      1 - first.toNat = n + 1 := Nat.exists_eq_succ_of_ne_zero (by omega)
  exact ⟨List.range' (first.toNat + 1) n, by rw [span, hn, List.range'_succ]⟩

theorem toList_pad (s : String) :
    (pad s).toList = s.toList ++ List.replicate (cellWidth - s.length) ' ' := by
  rw [pad]
  induction cellWidth - s.length with
  | zero => simp [String.pushn, Nat.repeat]
  | succ n ih =>
    rw [List.replicate_succ', ← List.append_assoc, ← ih]
    exact String.toList_push _

/-- The letters of columns stay on one line. -/
theorem newline_not_mem_header (cols : List Nat) : '\n' ∉ (String.join
    (cols.map fun col => pad (String.ofList (Column.letters col)))).toList := by
  rw [String.toList_join, List.mem_flatMap]
  rintro ⟨_, hs, hn⟩
  obtain ⟨col, -, rfl⟩ := List.mem_map.1 hs
  rw [toList_pad, String.toList_ofList, List.mem_append] at hn
  rcases hn with hn | hn
  · exact absurd (Column.isLetter_of_mem_letters hn) (by decide)
  · exact absurd (List.eq_of_mem_replicate hn) (by decide)

/-- A text that starts with a cell: the letters of its column head the first line, and the second
line starts with its row and what it shows. -/
def ShowsFirst (text : String) (r : Reference) (shown : String) : Prop :=
  ∃ columns rest : String, '\n' ∉ columns.toList ∧
    text = "\t" ++ pad r.letters ++ columns ++ "\n" ++
      toString r.row.toNat ++ "\t" ++ pad shown ++ rest

end Window

/-- **A window starts with its first cell**, if that lies inside the extent. -/
theorem Worksheet.showsFirst_show (w : Worksheet) (v : Evaluation) {window : Window}
    (h : w.extent.contains window.origin = true) :
    Window.ShowsFirst (w.show v window) window.origin (v.shown window.origin) := by
  simp only [Extent.contains, Bool.and_eq_true, decide_eq_true_eq] at h
  obtain ⟨rows, hrows⟩ := Window.span_eq_cons h.1 window.rows
  obtain ⟨cols, hcols⟩ := Window.span_eq_cons h.2 window.cols
  rw [Worksheet.show, Window.shownRows, Window.shownCols, hrows, hcols]
  simp only [Window.ShowsFirst, List.map_cons, String.join_cons, UInt32.ofNat_toNat,
    String.append_assoc, Reference.letters]
  exact ⟨_, _, Window.newline_not_mem_header cols, rfl⟩

namespace Window

/-! ### Runs -/

/-- The numbers from `first` on, `count` of them, without those after the limit. They ascend. -/
structure IsRun (first count limit : UInt32) (ns : List UInt32) : Prop where
  ascending : ns.Pairwise (· < ·)
  mem_iff : ∀ n, n ∈ ns ↔ first ≤ n ∧ n.toNat < first.toNat + count.toNat ∧ n ≤ limit

section Runs

variable {first count limit : UInt32} {ns : List UInt32}

/-- A run is empty if no number is asked for, or if the first one is after the limit. -/
theorem IsRun.eq_nil_iff (h : IsRun first count limit ns) :
    ns = [] ↔ count = 0 ∨ limit < first := by
  rw [List.eq_nil_iff_forall_not_mem]
  constructor
  · intro hnone
    by_contra! hsome
    refine hnone first ((h.mem_iff first).2 ⟨UInt32.le_refl first, ?_, UInt32.not_lt.1 hsome.2⟩)
    have hcount : count.toNat ≠ 0 := fun h0 => hsome.1 (UInt32.toNat_inj.1 h0)
    omega
  · rintro hempty n hn
    obtain ⟨hfirst, hcount, hlimit⟩ := (h.mem_iff n).1 hn
    rcases hempty with rfl | hlt
    · exact absurd hcount (Nat.not_lt.2 (UInt32.le_iff_toNat_le.1 hfirst))
    · exact UInt32.not_lt.2 (UInt32.le_trans hfirst hlimit) hlt

/-- A run of at least one number is empty only if the first one is after the limit. -/
theorem IsRun.eq_nil_iff_of_max (h : IsRun first (max count 1) limit ns) :
    ns = [] ↔ limit < first := by
  have hne : max count 1 ≠ 0 := by
    rw [ne_eq, ← UInt32.toNat_inj, UInt32.toNat_max]
    exact Nat.ne_of_gt (Nat.le_max_right count.toNat 1)
  rw [h.eq_nil_iff, or_iff_right hne]

theorem mem_span_iff {n : Nat} : n ∈ span first count limit ↔
    first.toNat ≤ n ∧ n < first.toNat + (max count 1).toNat ∧ n ≤ limit.toNat := by
  have hlt := limit.toNat_lt
  have hone : (max count 1).toNat = max count.toNat 1 := UInt32.toNat_max count 1
  rw [span, List.mem_range'_1, hone, UInt32.size]
  omega

theorem toNat_ofNat_of_mem_span {n : Nat} (h : n ∈ span first count limit) :
    (UInt32.ofNat n).toNat = n :=
  UInt32.toNat_ofNat_of_lt' (Nat.lt_of_le_of_lt (mem_span_iff.1 h).2.2 limit.toNat_lt)

theorem map_toNat_span (first count limit : UInt32) :
    ((span first count limit).map UInt32.ofNat).map UInt32.toNat = span first count limit := by
  rw [List.map_map]
  exact (List.map_congr_left fun n hn => toNat_ofNat_of_mem_span hn).trans (List.map_id _)

/-- **The numbers that are shown are a run**, of one number if none is asked for. -/
theorem isRun_span (first count limit : UInt32) :
    IsRun first (max count 1) limit ((span first count limit).map UInt32.ofNat) where
  ascending := by
    have hspan : (span first count limit).Pairwise (· < ·) := List.pairwise_lt_range' 1
    refine List.pairwise_map.2 (hspan.imp_of_mem fun hm hn hlt => ?_)
    rwa [UInt32.lt_iff_toNat_lt, toNat_ofNat_of_mem_span hm, toNat_ofNat_of_mem_span hn]
  mem_iff n := by
    rw [List.mem_map]
    constructor
    · rintro ⟨m, hm, rfl⟩
      rw [UInt32.le_iff_toNat_le, UInt32.le_iff_toNat_le, toNat_ofNat_of_mem_span hm]
      exact mem_span_iff.1 hm
    · rintro ⟨hfirst, hcount, hlimit⟩
      exact ⟨n.toNat, mem_span_iff.2 ⟨UInt32.le_iff_toNat_le.1 hfirst, hcount,
        UInt32.le_iff_toNat_le.1 hlimit⟩, UInt32.ofNat_toNat⟩

/-- Asking for one number instead of none makes no difference if there is none to be shown. -/
theorem IsRun.of_max (h : IsRun first (max count 1) limit ns) (hrun : count ≠ 0 ∨ limit < first) :
    IsRun first count limit ns := by
  by_cases hcount : count = 0
  · subst hcount
    have hlimit : limit < first := hrun.resolve_left fun h0 => h0 rfl
    obtain rfl : ns = [] := h.eq_nil_iff.2 (.inr hlimit)
    refine ⟨.nil, fun n => ⟨fun hn => absurd hn List.not_mem_nil, ?_⟩⟩
    rintro ⟨hfirst, -, hle⟩
    exact absurd (UInt32.le_trans hfirst hle) (UInt32.not_le.2 hlimit)
  · have hmax : max count 1 = count := by
      have hne : count.toNat ≠ 0 := fun h0 => hcount (UInt32.toNat_inj.1 h0)
      rw [← UInt32.toNat_inj, UInt32.toNat_max, show (1 : UInt32).toNat = 1 from rfl]
      omega
    rwa [hmax] at h

end Runs

/-! ### Pages -/

/-- The line of letters of columns. -/
def header (cols : List UInt32) : String :=
  String.join (cols.map fun c => pad (String.ofList (Column.letters c.toNat)))

/-- The line of a row: its number, and what its cells show. -/
def line (shown : Reference → String) (cols : List UInt32) (row : UInt32) : String :=
  toString row.toNat ++ "\t" ++ String.join (cols.map fun c => pad (shown ⟨c, row⟩)) ++ "\n"

/-- The text of columns and rows. -/
def page (shown : Reference → String) (cols rows : List UInt32) : String :=
  "\t" ++ header cols ++ "\n" ++ String.join (rows.map (line shown cols))

/-- A text of just the rows and columns that a window asks for, as far as the extent goes. -/
def Shows (window : Window) (e : Extent) (shown : Reference → String) (text : String) : Prop :=
  ∃ cols rows, IsRun window.origin.column window.cols e.cols cols ∧
    IsRun window.origin.row window.rows e.rows rows ∧ text = page shown cols rows

/-- What is shown is a page. -/
theorem show_eq_page (w : Worksheet) (v : Evaluation) (window : Window) :
    w.show v window = page v.shown ((window.shownCols w.extent).map UInt32.ofNat)
      ((window.shownRows w.extent).map UInt32.ofNat) := by
  have hcols := map_toNat_span window.origin.column window.cols w.extent.cols
  have hrows := map_toNat_span window.origin.row window.rows w.extent.rows
  rw [Worksheet.show, shownCols, shownRows, ← hcols, ← hrows]
  simp only [page, header, line, List.map_map, Function.comp_def, UInt32.ofNat_toNat]

/-- Padding leaves nothing empty. -/
theorem pad_ne_empty (s : String) : pad s ≠ "" := by
  intro h
  have hlength := congrArg List.length (congrArg String.toList h)
  rw [toList_pad, List.length_append, List.length_replicate, String.length_toList] at hlength
  simp only [cellWidth, String.toList_empty, List.length_nil] at hlength
  omega

theorem header_eq_empty_iff {cols : List UInt32} : header cols = "" ↔ cols = [] := by
  cases cols with
  | nil => simp [header]
  | cons c cols => simp [header, pad_ne_empty]

theorem lines_eq_empty_iff {shown : Reference → String} {cols rows : List UInt32} :
    String.join (rows.map (line shown cols)) = "" ↔ rows = [] := by
  cases rows with
  | nil => simp
  | cons r rows => simp [line]

/-- The line of letters is the first piece of a page. -/
theorem splitAtNewlines_page (shown : Reference → String) (cols rows : List UInt32) :
    Text.splitAtNewlines (page shown cols rows).toList =
      ('\t' :: (header cols).toList) ::
        Text.splitAtNewlines (String.join (rows.map (line shown cols))).toList := by
  have hheader : '\n' ∉ '\t' :: (header cols).toList := by
    have hletters := newline_not_mem_header (cols.map UInt32.toNat)
    rw [List.map_map] at hletters
    simpa [header] using hletters
  have hpage : (page shown cols rows).toList = ('\t' :: (header cols).toList) ++
      '\n' :: (String.join (rows.map (line shown cols))).toList := by
    simp [page]
  rw [hpage, Text.splitAtNewlines_append_newline, Text.splitAtNewlines_of_not_mem hheader,
    List.singleton_append]

/-- A page tells whether it has columns, and whether it has rows. -/
theorem eq_nil_of_page_eq {shown : Reference → String} {cols rows cols' rows' : List UInt32}
    (h : page shown cols rows = page shown cols' rows') :
    (cols = [] ↔ cols' = []) ∧ (rows = [] ↔ rows' = []) := by
  have hpieces := congrArg (fun text => Text.splitAtNewlines text.toList) h
  simp only [splitAtNewlines_page, List.cons.injEq, true_and, String.toList_inj] at hpieces
  have hheader : header cols = header cols' := hpieces.1
  refine ⟨by rw [← header_eq_empty_iff, hheader, header_eq_empty_iff], ?_⟩
  -- With the same line of letters, the lines of the rows are the same too.
  have hlines : String.join (rows.map (line shown cols)) =
      String.join (rows'.map (line shown cols')) := by
    rw [page, page, hheader] at h
    exact String.append_right_inj _ |>.1 h
  rw [← lines_eq_empty_iff, hlines, lines_eq_empty_iff]

/-- The window that is shown asks for one row or column instead of none. -/
def atLeastOneCell (window : Window) : Window where
  origin := window.origin
  rows := max window.rows 1
  cols := max window.cols 1

theorem shows_show_atLeastOneCell (w : Worksheet) (v : Evaluation) (window : Window) :
    window.atLeastOneCell.Shows w.extent v.shown (w.show v window) :=
  ⟨_, _, isRun_span _ _ _, isRun_span _ _ _, show_eq_page w v window⟩

/-- What is shown is what the window asks for, unless it asks for no rows or for no columns where
there is one. -/
theorem shows_show_iff (w : Worksheet) (v : Evaluation) (window : Window) :
    window.Shows w.extent v.shown (w.show v window) ↔
      (window.rows ≠ 0 ∨ w.extent.rows < window.origin.row) ∧
        (window.cols ≠ 0 ∨ w.extent.cols < window.origin.column) := by
  obtain ⟨cols', rows', hcols', hrows', htext⟩ := shows_show_atLeastOneCell w v window
  constructor
  · -- A page of other rows and columns is empty where this one is, and only there.
    rintro ⟨cols, rows, hcols, hrows, hpage⟩
    obtain ⟨hnocols, hnorows⟩ := eq_nil_of_page_eq (hpage.symm.trans htext)
    rw [hcols.eq_nil_iff, hcols'.eq_nil_iff_of_max] at hnocols
    rw [hrows.eq_nil_iff, hrows'.eq_nil_iff_of_max] at hnorows
    exact ⟨not_or_of_imp fun h0 => hnorows.1 (.inl h0),
      not_or_of_imp fun h0 => hnocols.1 (.inl h0)⟩
  · rintro ⟨hrows, hcols⟩
    exact ⟨cols', rows', hcols'.of_max hcols, hrows'.of_max hrows, htext⟩

end Window

/-- **What is shown of a worksheet.** The window always shows its rows and columns as far as the
extent goes, but one row or column instead of none. So the text is what the window asks for just
when it asks for rows or starts below the extent, and asks for columns or starts to the right of
it. -/
theorem Worksheet.show_exact (w : Worksheet) (v : Evaluation) (window : Window) :
    window.atLeastOneCell.Shows w.extent v.shown (w.show v window) ∧
      (window.Shows w.extent v.shown (w.show v window) ↔
        (window.rows ≠ 0 ∨ w.extent.rows < window.origin.row) ∧
          (window.cols ≠ 0 ∨ w.extent.cols < window.origin.column)) :=
  ⟨Window.shows_show_atLeastOneCell w v window, Window.shows_show_iff w v window⟩

/-- A window without rows shows the first row of an empty worksheet. -/
theorem Worksheet.not_forall_shows_show :
    ¬∀ (w : Worksheet) (v : Evaluation) (window : Window),
      1 ≤ window.origin.row → 1 ≤ window.origin.column →
        window.Shows w.extent v.shown (w.show v window) := by
  intro h
  have hshows := h { extent := ⟨10, 10⟩ } {} ⟨⟨1, 1⟩, 0, 1⟩ (by decide) (by decide)
  obtain ⟨hrows, -⟩ := (Window.shows_show_iff _ _ _).1 hshows
  exact absurd hrows (by decide)

end SharedSheet
