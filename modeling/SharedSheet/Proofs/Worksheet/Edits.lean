import SharedSheet.Proofs.Worksheet
import SharedSheet.Proofs.Worksheet.Queue

/-!
# What an edit reaches

An edit may make or break cycles and errors anywhere, and it changes the order in which the queue
takes the cells. None of this matters to a cell from which no references lead to the edited one. The
queue does not come up in the argument: the evaluations before and after the edit are both settled,
and settled evaluations agree on cells that two worksheets have in common with all that is referred
to from them.

References to cells without a term have to be followed too. An edit may give such a cell a term, and
then whoever referred to it reads it.

## Main results

* `Worksheet.AgreesOn.find?_evaluate` — worksheets have the same outcomes where they agree
* `Worksheet.find?_evaluate_apply` — changes do not reach cells that do not refer to them
* `Worksheet.edit_reaches_only_readers` — the same for one edit, and the cell does not come to refer
  to it either
-/

namespace SharedSheet.Worksheet

open Formula

variable {w w' : Worksheet} {r : Reference}

/-! ### Outcomes where worksheets agree -/

/-- All paths of reading end, unless one gets to a cycle. -/
theorem grounded_iff : w.Grounded r ↔ ¬ w.ReachesCycle r :=
  ⟨Grounded.not_reachesCycle, w.progress_tasks.run.grounded⟩

theorem settledBy_evaluate (w : Worksheet) : w.SettledBy w.evaluate :=
  w.progress_tasks.run.settledBy

namespace AgreesOn

variable {cells : Set Reference}

theorem reachesCycle (h : w.AgreesOn w' cells) (hr : r ∈ cells) (hcycle : w.ReachesCycle r) :
    w'.ReachesCycle r := by
  by_contra hno
  exact grounded_iff.1 (h.symm.grounded hr (grounded_iff.2 hno)) hcycle

/-- **Worksheets have the same outcomes where they agree.** -/
theorem find?_evaluate (h : w.AgreesOn w' cells) (hr : r ∈ cells) :
    w.evaluate.outcomes.find? r = w'.evaluate.outcomes.find? r := by
  by_cases hcycle : w.ReachesCycle r
  · obtain ⟨t, ht⟩ := hcycle.holdsFormula
    rw [(w.settledBy_evaluate.cyclic r t ht).2 hcycle,
      (w'.settledBy_evaluate.cyclic r t ((h.holdsFormula hr).1 ht)).2 (h.reachesCycle hr hcycle)]
  · exact w.settledBy_evaluate.find?_eq_of_agreesOn w'.settledBy_evaluate h hr
      (grounded_iff.2 hcycle)

/-- Following references in either worksheet, one does not leave the cells that they have in
common. -/
theorem mem_of_reaches (h : w.AgreesOn w' cells) (hr : r ∈ cells) {q : Reference}
    (hpath : Relation.ReflTransGen w.RefersTo r q) : q ∈ cells := by
  induction hpath with
  | refl => exact hr
  | tail _ hlast ih => exact h.mem_of_refersTo _ ih _ hlast

end AgreesOn

/-! ### Edits -/

/-- Changes leave alone what is referred to from a cell from which one does not get to them. -/
theorem agreesOn_apply (w : Worksheet) (es : List Edit) : w.AgreesOn (w.apply es)
    {r | ∀ e ∈ es, ¬ Relation.ReflTransGen w.RefersTo r e.reference} where
  get?_eq r hr := by
    have hnone : Edit.lastTerm? r es = none := by
      rw [← Option.not_isSome_iff_eq_none, Edit.lastTerm?_isSome]
      rintro ⟨e, he, rfl⟩
      exact hr e he .refl
    rw [get?_apply, hnone]
    rfl
  mem_of_refersTo _ hr _ href e he hpath := hr e he (.head href hpath)

/-- **Changes reach only readers**, however many are made at once. -/
theorem find?_evaluate_apply (w : Worksheet) {es : List Edit} {r : Reference}
    (h : ∀ e ∈ es, ¬ Relation.ReflTransGen w.RefersTo r e.reference) :
    (w.apply es).evaluate.outcomes.find? r = w.evaluate.outcomes.find? r :=
  ((w.agreesOn_apply es).find?_evaluate h).symm

/-- **An edit reaches only readers.** A cell from which the edited one cannot be reached by
following references keeps its outcome, be it a value, an error or none. The edited cell cannot be
reached from it afterwards either. A cell is reached from itself without any reference, so the cell
that keeps its outcome is another one. -/
theorem edit_reaches_only_readers (w : Worksheet) (edited : Reference) (term : String)
    {r : Reference} (h : ¬ Relation.ReflTransGen w.RefersTo r edited) :
    (w.set edited term).evaluate.outcomes.find? r = w.evaluate.outcomes.find? r ∧
      ¬ Relation.ReflTransGen (w.set edited term).RefersTo r edited := by
  have hset : w.set edited term = w.apply [⟨edited, term⟩] := rfl
  have hes : ∀ e ∈ [(⟨edited, term⟩ : Edit)], ¬ Relation.ReflTransGen w.RefersTo r e.reference :=
    List.forall_mem_singleton.2 h
  rw [hset]
  refine ⟨w.find?_evaluate_apply hes, fun hpath => ?_⟩
  have hedited := (w.agreesOn_apply [⟨edited, term⟩]).symm.mem_of_reaches hes hpath
  exact hedited ⟨edited, term⟩ List.mem_cons_self .refl

/-- `$A1` refers to `$B1`, and `$C1` to `$A1` and to `$D1`, which has no term. -/
def chained : Worksheet := ({ extent := ⟨10, 10⟩ } : Worksheet).apply
  [⟨⟨1, 1⟩, "=$B1*2"⟩, ⟨⟨2, 1⟩, "3"⟩, ⟨⟨3, 1⟩, "=$A1+$D1"⟩]

/-- The edit puts `$C1` and `$D1` on a cycle, and `$A1` is not concerned. -/
theorem edit_reaches_only_readers_chained :
    ¬ Relation.ReflTransGen chained.RefersTo ⟨1, 1⟩ ⟨4, 1⟩ ∧
      (chained.set ⟨4, 1⟩ "=$C1").evaluate.outcomes.find? ⟨1, 1⟩ =
        chained.evaluate.outcomes.find? ⟨1, 1⟩ ∧
      ¬ Relation.ReflTransGen (chained.set ⟨4, 1⟩ "=$C1").RefersTo ⟨1, 1⟩ ⟨4, 1⟩ := by
  have hcells : ∀ r r' s, chained.RefersTo r r' → chained.get? r = some s →
      ∃ cells, (Term.ofString s).toOption.map (·.expr.cells) = some cells ∧ r' ∈ cells := by
    rintro r r' s ⟨t, ⟨s', hs', -, ht⟩, hr'⟩ hs
    obtain rfl := Option.some.inj (hs.symm.trans hs')
    exact ⟨t.expr.cells, by rw [ht]; rfl, Expr.mem_references.1 hr'⟩
  have hreached : ∀ q, Relation.ReflTransGen chained.RefersTo ⟨1, 1⟩ q →
      q = ⟨1, 1⟩ ∨ q = ⟨2, 1⟩ := fun q hpath => by
    induction hpath with
    | refl => exact .inl rfl
    | tail _ hlast ih =>
      rcases ih with rfl | rfl
      · obtain ⟨cells, hread, hmem⟩ := hcells _ _ "=$B1*2" hlast (by decide +kernel)
        rw [show (Term.ofString "=$B1*2").toOption.map (·.expr.cells) = some [⟨2, 1⟩] by
          decide +kernel] at hread
        obtain rfl := Option.some.inj hread
        exact .inr (List.mem_singleton.1 hmem)
      · obtain ⟨t, ⟨s, hs, hformula, -⟩, -⟩ := hlast
        rw [show chained.get? ⟨2, 1⟩ = some "3" by decide +kernel] at hs
        obtain rfl := Option.some.inj hs
        exact absurd hformula (by decide +kernel)
  have hunreached : ¬ Relation.ReflTransGen chained.RefersTo ⟨1, 1⟩ ⟨4, 1⟩ := fun hpath =>
    absurd (hreached _ hpath) (by decide)
  exact ⟨hunreached, edit_reaches_only_readers chained ⟨4, 1⟩ "=$C1" hunreached⟩

end SharedSheet.Worksheet
