import SharedSheet.Proofs.Terminal.Session
import SharedSheet.Proofs.Worksheet.Window

/-!
# The window of a session

The window is moved by pages and by jumps, and the worksheet under it grows. That its first cell
stays on the worksheet is an invariant of both together: pages are cut short at the first row and
column and are not turned past the extent, jumps out of the extent are refused, and nothing makes
an extent smaller. For the text that is printed it means that it starts with this cell, also in the
last row and the last column that can be numbered.

## Main definitions

* `Extent.Holds` — a cell lies on the grid

## Main results

* `Session.holds_scrolled` — turning pages
* `Session.holds_of_turn` — what a line keeps
* `Session.window_stays_on_grid` — what holds at every prompt
-/

namespace SharedSheet

/-! ### Cells on the grid -/

namespace Extent

/-- A cell on the grid has a name and lies inside the extent. -/
structure Holds (e : Extent) (r : Reference) : Prop where
  row_pos : 1 ≤ r.row
  column_pos : 1 ≤ r.column
  inside : e.contains r = true

theorem holds_of_isCell {e : Extent} {r : Reference} (hcell : r.IsCell)
    (hinside : e.contains r = true) : e.Holds r :=
  have hpos := Reference.isCell_iff.1 hcell
  ⟨hpos.2, hpos.1, hinside⟩

theorem Holds.rows {e : Extent} {r : Reference} (h : e.Holds r) : r.row ≤ e.rows :=
  of_decide_eq_true (Bool.and_eq_true_iff.1 h.inside).1

theorem Holds.cols {e : Extent} {r : Reference} (h : e.Holds r) : r.column ≤ e.cols :=
  of_decide_eq_true (Bool.and_eq_true_iff.1 h.inside).2

theorem holds_of_le {e : Extent} {r : Reference} (hrow : 1 ≤ r.row ∧ r.row ≤ e.rows)
    (hcolumn : 1 ≤ r.column ∧ r.column ≤ e.cols) : e.Holds r :=
  ⟨hrow.1, hcolumn.1, Bool.and_eq_true_iff.2 ⟨decide_eq_true hrow.2, decide_eq_true hcolumn.2⟩⟩

theorem Holds.grow {e : Extent} {r : Reference} (h : e.Holds r) (q : Reference) :
    (e.grow q).Holds r :=
  ⟨h.row_pos, h.column_pos, contains_grow h.inside⟩

/-- A new sheet has a first cell, whatever the arguments are. -/
theorem holds_withArguments (args : List String) :
    (({} : Settings).withArguments args).extent.Holds ⟨1, 1⟩ := by
  have hpos : ∀ (o : Option UInt32) (n : UInt32), 1 ≤ n → 1 ≤ (o.filter (0 < ·)).getD n := by
    intro o n hn
    cases ho : o.filter (0 < ·) with
    | none => exact hn
    | some m =>
      have hm : 0 < m := of_decide_eq_true (Option.filter_eq_some_iff.1 ho).2
      rw [UInt32.lt_iff_toNat_lt] at hm
      exact UInt32.le_iff_toNat_le.2 hm
  exact holds_of_le ⟨by decide, hpos _ _ (by decide)⟩ ⟨by decide, hpos _ _ (by decide)⟩

end Extent

namespace Terminal.Session

variable {s t : Session} {line : String}

/-! ### Turning pages -/

theorem back_bounds {n limit : UInt32} (h : 1 ≤ n ∧ n ≤ limit) :
    1 ≤ back n ∧ back n ≤ limit := by
  simp only [back, windowSize, UInt32.le_iff_toNat_le] at h ⊢
  split
  · exact h.elim fun h1 h2 => ⟨Nat.le_refl _, Nat.le_trans h1 h2⟩
  · next hlt =>
    have hsub : (n - 10).toNat = n.toNat - 10 := UInt32.toNat_sub_of_le _ _ (by
      rw [UInt32.le_iff_toNat_le]; exact Nat.le_of_not_le hlt)
    have hten : (10 : UInt32).toNat = 10 := rfl
    have hone : (1 : UInt32).toNat = 1 := rfl
    omega

theorem ahead_bounds {n limit : UInt32} (h : 1 ≤ n ∧ n ≤ limit) :
    1 ≤ ahead n limit ∧ ahead n limit ≤ limit := by
  rw [ahead]
  split
  · next hle =>
    have hlimit := limit.toNat_lt
    have hadd : (n + windowSize).toNat = n.toNat + windowSize.toNat := by
      rw [UInt32.toNat_add, Nat.mod_eq_of_lt (by omega)]
    simp only [UInt32.le_iff_toNat_le] at h ⊢
    omega
  · exact h

/-- **Turning pages does not leave the grid.** -/
theorem holds_scrolled {e : Extent} {r : Reference} (h : e.Holds r) (d : Direction) :
    e.Holds (scrolled r d e) := by
  have hrow := And.intro h.row_pos h.rows
  have hcolumn := And.intro h.column_pos h.cols
  cases d with
  | up => exact Extent.holds_of_le (back_bounds hrow) hcolumn
  | left => exact Extent.holds_of_le hrow (back_bounds hcolumn)
  | down => exact Extent.holds_of_le (ahead_bounds hrow) hcolumn
  | right => exact Extent.holds_of_le hrow (ahead_bounds hcolumn)

/-! ### Sessions -/

/-- **A line does not take the window off the grid**, and does not take the grid away from it. -/
theorem holds_of_turn {w : Worksheet} {r : Reference} (h : s.Turn line w r)
    (hs : s.sheet.extent.Holds s.origin) : w.extent.Holds r := by
  cases h with
  | stay => exact hs
  | scroll d => exact holds_scrolled hs d
  | jump isCell inside => exact Extent.holds_of_isCell isCell inside
  | clear chosen => exact hs
  | set isCell trimmed onLine => exact hs.grow _

/-- **The window stays on the grid.** Whatever the arguments and the lines, the session after the
lines is the one that prompts next, its window starts at a cell whose row and column are at least 1
and that lies inside the extent, and the text of the window starts with this cell. -/
theorem window_stays_on_grid (args : List String) (lines : List (String × Nat)) {s : Session}
    (h : (ofArguments args).after? (lines.map (·.1)) = some s) :
    (∀ tenths, ∃ printed tenths', ∀ more, ∃ rest,
      (ofArguments args).transcript tenths (lines ++ more) =
        printed ++ (s.prompt tenths' ++ rest)) ∧
    s.sheet.extent.Holds s.origin ∧
    Window.ShowsFirst s.view s.origin (s.sheet.evaluate.shown s.origin) := by
  have hgrid : s.sheet.extent.Holds s.origin :=
    after?_induction (motive := fun s => s.sheet.extent.Holds s.origin) h
      (Extent.holds_withArguments args)
      fun _ _ _ _ hs hstep => holds_of_turn (turn_of_step hstep) hs
  exact ⟨transcript_append h, hgrid, s.sheet.showsFirst_show _ hgrid.inside⟩

/-- Pages and jumps at the far corner of the largest sheet, some of them refused. -/
def atFarCorner : List (String × Nat) :=
  ["a\n", "scroll_to $MWLQKWU4294967295\r\n", "s\n", "d\n", "w\n", "clear_row 4294967295\n",
    "scroll_to $A0\n", "scroll_to  A4294967290 \n", "s\n", "d\n"].map (·, 0)

theorem window_stays_on_grid_atFarCorner :
    ∃ s, (ofArguments [" +4294967295", "4294967295", "7"]).after? (atFarCorner.map (·.1)) = some s ∧
      s.origin = ⟨11, 4294967290⟩ ∧ s.sheet.extent.Holds s.origin ∧
      Window.ShowsFirst s.view s.origin (s.sheet.evaluate.shown s.origin) := by
  have horigin : ((ofArguments [" +4294967295", "4294967295", "7"]).after?
      (atFarCorner.map (·.1))).map (·.origin) = some ⟨11, 4294967290⟩ := by
    decide +kernel
  obtain ⟨s, hs, horigin⟩ := Option.map_eq_some_iff.1 horigin
  exact ⟨s, hs, horigin, (window_stays_on_grid _ atFarCorner hs).2⟩

end Terminal.Session

end SharedSheet
