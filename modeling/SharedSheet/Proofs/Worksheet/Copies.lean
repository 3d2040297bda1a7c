import SharedSheet.Proofs.Worksheet.Asking

/-!
# What the target does to a copy

A copy has the value of its first argument and shows it in its second one, the target, which it
never reads. But the target stands among the references of the formula, and references are what
errors and cycles are passed along. So a term in the target matters to the copy if its own outcome
is an error: the copy then has an error too, although its value could be told.

`Evaluation.inCell_copy` says how the two outcomes make one. The rest is that the outcome of the
first argument does not depend on the target, if no references lead there.

## Main definitions

* `Outcome.isInherited` — an error that was passed along references

## Main results

* `Evaluation.inCell_copy` — the outcome of a copy, from those of its first argument and its target
* `Worksheet.copy_up_to_failed_target` — a copy for all terms of its target
* `Worksheet.not_forall_copy_unaffected` — an error in the target is taken over
-/

namespace SharedSheet

open Formula

/-! ### Copies as formulas -/

namespace Formula.Expr

theorem collectNew_concat {seen : Std.HashSet Reference} {found rs : List Reference} {r : Reference}
    (hseen : r ∉ seen) (hr : r ∉ rs) :
    collectNew seen found (rs ++ [r]) = r :: collectNew seen found rs := by
  induction rs generalizing seen found with
  | nil => simp [collectNew, hseen]
  | cons q rs ih =>
    obtain ⟨hne, hrs⟩ := not_or.1 (mt List.mem_cons.2 hr)
    rw [List.cons_append, collectNew, collectNew]
    split
    · exact ih hseen hrs
    · refine ih (fun hmem => ?_) hrs
      rcases Std.HashSet.mem_insert.1 hmem with heq | hmem
      · exact hne (eq_of_beq heq).symm
      · exact hseen hmem

variable {e : Expr} {target : Reference}

/-- The target is the last reference of a copy. -/
theorem references_copy (h : target ∉ e.references) :
    (call .copy [e, .cell target]).references = e.references ++ [target] := by
  have hcells : (call .copy [e, .cell target]).cells = e.cells ++ [target] := by
    rw [cells_call]
    simp [cells, pushCells]
  rw [references, hcells, collectNew_concat (by simp) (mt mem_references.2 h), List.reverse_cons]
  rfl

theorem references_cell (r : Reference) : (cell r).references = [r] := by
  simp [references, cells, pushCells, collectNew]

/-- A copy has the value of its first argument. -/
theorem eval_copy (ctx : Context) : (call .copy [e, .cell target]).eval ctx = e.eval ctx := by
  cases h : e.eval ctx <;> simp [eval, evalArgs, Function.apply, h]

end Formula.Expr

/-! ### Outcomes of copies -/

/-- An error that comes from a cell that was referred to. -/
def Outcome.isInherited : Outcome → Bool
  | .error .cycle => true
  | .error (.readsFailed _) => true
  | _ => false

namespace Evaluation

variable {v : Evaluation} {e : Expr} {target r : Reference}

theorem isInherited_expr :
    Outcome.isInherited (v.expr e) = (e.references.find? v.failed).isSome := by
  unfold expr
  split
  · rename_i h
    rw [h]
    rfl
  · rename_i h
    rw [h]
    cases e.eval v.context <;> rfl

theorem expr_copy (h : target ∉ e.references) : v.expr (.call .copy [e, .cell target]) =
    if v.failed target && !Outcome.isInherited (v.expr e) then .error (.readsFailed target)
    else v.expr e := by
  rw [isInherited_expr]
  rw [expr, expr, Expr.references_copy h, Expr.eval_copy, List.find?_append]
  cases e.references.find? v.failed with
  | some r => simp
  | none => cases hfailed : v.failed target <;> simp [hfailed]

/-- **The outcome of a copy** is that of its first argument, unless the target has an error and no
reference of the first argument has one. An error that tells of a cycle comes first. -/
theorem inCell_copy (h : target ∉ e.references) :
    v.inCell (.formula (.call .copy [e, .cell target])) =
      if v.circular target then .error .cycle
      else if v.failed target && !Outcome.isInherited (v.inCell (.formula e)) then
        .error (.readsFailed target)
      else v.inCell (.formula e) := by
  have hreferences : (Content.formula (.call .copy [e, .cell target])).references =
      e.references ++ [target] := Expr.references_copy h
  rw [inCell, inCell, hreferences, List.any_append]
  cases hany : e.references.any v.circular <;> cases hcircular : v.circular target <;>
    simp [Content.references, hany, hcircular, Outcome.isInherited, content, expr_copy h]

end Evaluation

/-! ### Copies in a worksheet -/

namespace Worksheet

variable {w : Worksheet} {c target : Reference} {e : Expr}

/-- What a formula has in a cell does not depend on a cell to which no references lead. -/
theorem inCell_set (hunread : ∀ q ∈ e.references, ¬ Relation.ReflTransGen w.RefersTo q target)
    (term : String) : (w.set target term).evaluate.inCell (.formula e) =
      w.evaluate.inCell (.formula e) := by
  have hset : w.set target term = w.apply [⟨target, term⟩] := rfl
  refine Evaluation.inCell_congr fun q hq => ?_
  have hedit : ∀ edit ∈ [(⟨target, term⟩ : Edit)],
      ¬ Relation.ReflTransGen w.RefersTo q edit.reference :=
    List.forall_mem_singleton.2 (hunread q hq)
  rw [hset, w.find?_evaluate_apply hedit]

theorem find?_evaluate_copy (hcopy : w.HoldsFormula c (.formula (.call .copy [e, .cell target])))
    (hne : target ≠ c) (term : String) : (w.set target term).evaluate.outcomes.find? c =
      some ((w.set target term).evaluate.inCell (.formula (.call .copy [e, .cell target]))) := by
  obtain ⟨s, hs, -⟩ := id hcopy
  have hset : (w.set target term).get? c = some s := by rw [get?_set, if_neg (Ne.symm hne), hs]
  rw [find?_evaluate hset, hcopy.content hs]
  rfl

/-- **A copy, for all terms of its target.** No references lead from the first argument of a copy to
its target, and then none lead to the copy either, which refers to the target. As long as the target
has no error the copy has the outcome that its first argument has as a formula of its own, and this
does not depend on what the target holds. If references lead from the target to a cycle, with the
copy on it or not, the copy says so too. Any other error of the target is named by the copy, unless
its first argument refers to a cell with an error already. -/
theorem copy_up_to_failed_target
    (hcopy : w.HoldsFormula c (.formula (.call .copy [e, .cell target]))) (hne : target ≠ c)
    (hunread : ∀ q ∈ e.references, ¬ Relation.ReflTransGen w.RefersTo q target) (term : String) :
    ((w.set target term).evaluate.failed target = false →
      (w.set target term).evaluate.outcomes.find? c = some (w.evaluate.inCell (.formula e))) ∧
    ((w.set target term).evaluate.circular target = true →
      (w.set target term).evaluate.outcomes.find? c = some (.error .cycle)) ∧
    ((w.set target term).evaluate.failed target = true →
      (w.set target term).evaluate.circular target = false →
      (w.set target term).evaluate.outcomes.find? c =
        some (if Outcome.isInherited (w.evaluate.inCell (.formula e)) then
          w.evaluate.inCell (.formula e) else .error (.readsFailed target))) := by
  have htarget : target ∉ e.references := fun hmem => hunread target hmem .refl
  rw [find?_evaluate_copy hcopy hne, Evaluation.inCell_copy htarget, inCell_set hunread]
  refine ⟨fun hfailed => ?_, fun hcircular => ?_, fun hfailed hcircular => ?_⟩
  · have hcircular : ¬ (w.set target term).evaluate.circular target = true := fun hcircular => by
      rw [Evaluation.failed_of_circular hcircular] at hfailed
      cases hfailed
    rw [if_neg hcircular, hfailed]
    rfl
  · rw [if_pos hcircular]
  · rw [hfailed, hcircular]
    cases Outcome.isInherited (w.evaluate.inCell (.formula e)) <;> rfl

/-- `$A1` copies `$C1` into `$B1`. -/
def copying : Worksheet := ({ extent := ⟨10, 10⟩ } : Worksheet).apply
  [⟨⟨1, 1⟩, "=COPY($C1,$B1)"⟩, ⟨⟨3, 1⟩, "x"⟩]

theorem holdsFormula_copying :
    copying.HoldsFormula ⟨1, 1⟩ (.formula (.call .copy [.cell ⟨3, 1⟩, .cell ⟨2, 1⟩])) := by
  have htokens : Token.ofString "=COPY($C1,$B1)" =
      [⟨.function, "=COPY", 0⟩, ⟨.leftParen, "(", 5⟩, ⟨.reference, "$C1", 6⟩, ⟨.comma, ",", 9⟩,
        ⟨.reference, "$B1", 10⟩, ⟨.rightParen, ")", 13⟩] := by decide +kernel
  refine ⟨"=COPY($C1,$B1)", by decide +kernel, by decide +kernel, ?_⟩
  rw [Term.ofString, if_pos (by decide +kernel), htokens]
  rfl

theorem not_reaches_copying (r : Reference) (hr : r ≠ ⟨3, 1⟩) :
    ∀ q ∈ (Expr.cell ⟨3, 1⟩).references, ¬ Relation.ReflTransGen copying.RefersTo q r := by
  intro q hq hpath
  obtain rfl : q = ⟨3, 1⟩ := List.mem_singleton.1 (Expr.mem_references.1 hq)
  rcases Relation.ReflTransGen.cases_head hpath with heq | ⟨q, hfirst, -⟩
  · exact hr heq.symm
  · obtain ⟨t, ⟨s, hs, hformula, -⟩, -⟩ := hfirst
    rw [show copying.get? ⟨3, 1⟩ = some "x" by decide +kernel] at hs
    obtain rfl := Option.some.inj hs
    exact absurd hformula (by decide +kernel)

/-- The target refers to the copy. -/
theorem copy_up_to_failed_target_copying :
    copying.HoldsFormula ⟨1, 1⟩ (.formula (.call .copy [.cell ⟨3, 1⟩, .cell ⟨2, 1⟩])) ∧
    (∀ q ∈ (Expr.cell ⟨3, 1⟩).references, ¬ Relation.ReflTransGen copying.RefersTo q ⟨2, 1⟩) ∧
    ((copying.set ⟨2, 1⟩ "=$A1").evaluate.failed ⟨2, 1⟩ = false →
      (copying.set ⟨2, 1⟩ "=$A1").evaluate.outcomes.find? ⟨1, 1⟩ =
        some (copying.evaluate.inCell (.formula (.cell ⟨3, 1⟩)))) ∧
    ((copying.set ⟨2, 1⟩ "=$A1").evaluate.circular ⟨2, 1⟩ = true →
      (copying.set ⟨2, 1⟩ "=$A1").evaluate.outcomes.find? ⟨1, 1⟩ = some (.error .cycle)) ∧
    ((copying.set ⟨2, 1⟩ "=$A1").evaluate.failed ⟨2, 1⟩ = true →
      (copying.set ⟨2, 1⟩ "=$A1").evaluate.circular ⟨2, 1⟩ = false →
      (copying.set ⟨2, 1⟩ "=$A1").evaluate.outcomes.find? ⟨1, 1⟩ =
        some (if Outcome.isInherited (copying.evaluate.inCell (.formula (.cell ⟨3, 1⟩))) then
          copying.evaluate.inCell (.formula (.cell ⟨3, 1⟩)) else .error (.readsFailed ⟨2, 1⟩))) :=
  have hunread := not_reaches_copying ⟨2, 1⟩ (by decide)
  ⟨holdsFormula_copying, hunread,
    copy_up_to_failed_target holdsFormula_copying (by decide) hunread "=$A1"⟩

/-- **An error in the target is taken over.** With an unreadable formula in `$B1` the copy in `$A1`
has an error, and with nothing there it has a value. -/
theorem not_forall_copy_unaffected : ¬ ∀ (w : Worksheet) (c target : Reference) (e : Expr),
    w.HoldsFormula c (.formula (.call .copy [e, .cell target])) → target ≠ c →
    (∀ q ∈ e.references, ¬ Relation.ReflTransGen w.RefersTo q target ∧
      ¬ Relation.ReflTransGen w.RefersTo q c) →
    ∀ term term', (w.set target term).evaluate.outcomes.find? c =
      (w.set target term').evaluate.outcomes.find? c := by
  intro hall
  have hunread := not_reaches_copying ⟨2, 1⟩ (by decide)
  have hsame := hall copying ⟨1, 1⟩ ⟨2, 1⟩ (.cell ⟨3, 1⟩) holdsFormula_copying (by decide)
    (fun q hq => ⟨hunread q hq, not_reaches_copying ⟨1, 1⟩ (by decide) q hq⟩) "" "=("
  have htarget : ⟨2, 1⟩ ∉ (Expr.cell ⟨3, 1⟩).references := fun hmem => hunread _ hmem .refl
  rw [find?_evaluate_copy holdsFormula_copying (by decide),
    find?_evaluate_copy holdsFormula_copying (by decide), Evaluation.inCell_copy htarget,
    Evaluation.inCell_copy htarget, inCell_set hunread, inCell_set hunread] at hsame
  -- The value to be copied.
  have hx : copying.evaluate.outcomes.find? ⟨3, 1⟩ = some (.ok (Value.ofTerm "x")) :=
    copying.settledBy_evaluate.literal _ "x" (by decide +kernel) (by decide +kernel)
  have hvalue : copying.evaluate.inCell (.formula (.cell ⟨3, 1⟩)) = .ok (Value.ofTerm "x") := by
    simp [Evaluation.inCell, Content.references, Expr.references_cell, Evaluation.content,
      Evaluation.expr, Evaluation.circular, Evaluation.failed, Evaluation.context, Expr.eval, hx]
  -- The target without a term, and with one that cannot be read.
  have hnone : (copying.set ⟨2, 1⟩ "").evaluate.outcomes.find? ⟨2, 1⟩ = none :=
    (copying.set ⟨2, 1⟩ "").settledBy_evaluate.find?_eq_none (by decide +kernel)
  have htokens : Token.ofString "=(" = [⟨.operator, "=", 0⟩, ⟨.leftParen, "(", 1⟩] := by
    decide +kernel
  obtain ⟨error, herror⟩ : ∃ error, Term.ofString "=(" = .error error :=
    ⟨_, by rw [Term.ofString, if_pos (by decide +kernel), htokens]; rfl⟩
  have hbroken := (copying.set ⟨2, 1⟩ "=(").settledBy_evaluate.broken ⟨2, 1⟩ "=(" error
    (by decide +kernel) (by decide +kernel) herror
  simp [hvalue, Evaluation.circular, Evaluation.failed, hnone, hbroken, Outcome.isInherited]
    at hsame

end Worksheet

end SharedSheet
