import SharedSheet.Proofs.Formula.Rendering

/-!
# Formulas that are built, not read

An expression that a program puts together need not come from a text. Without texts in it nothing
can go wrong when it is written down: its numbers are finite, so that each of them is a numeral,
and a cell is spelled with at least one letter and a digit. Minus signs need no care. A numeral with
a sign stands behind a parenthesis, a comma or an operator, where a sign is part of the numeral, and
an operator stands behind a number, a cell or a parenthesis, where it is not.

So such an expression is legible, and it is read back exactly, not only up to the sign of its zeros.

## Main definitions

* `Expr.IsPlain` — expressions of finite numbers and cells

## Main results

* `Expr.IsPlain.isLegible`, `Expr.IsPlain.isWord` — plain expressions are legible
* `Term.ofString_render_of_isPlain` — the text of a plain formula is read as the formula
* `Term.eq_of_render_eq` — no other plain formula has that text
-/

namespace SharedSheet.Formula

namespace Expr

/-- An expression that consists of finite numbers, cells, operations and calls. -/
inductive IsPlain : Expr → Prop
  | number {x : Float} : x.isFinite = true → IsPlain (.number x)
  | cell {r : Reference} : 1 ≤ r.column → 1 ≤ r.row → IsPlain (.cell r)
  | operation {left right : Expr} {op : Operator} : IsPlain left → IsPlain right →
      IsPlain (.operation left op right)
  | call {f : Function} {args : List Expr} : (∀ arg ∈ args, IsPlain arg) → IsPlain (.call f args)

variable {e l : Expr} {args : List Expr}

theorem mem_leavesOfArgs : l ∈ leavesOfArgs args ↔ ∃ arg ∈ args, l ∈ arg.leaves := by
  induction args with
  | nil => simp [leavesOfArgs]
  | cons arg args ih => simp [leavesOfArgs, ih]

theorem areLegible_eq_true_iff : areLegible args = true ↔ ∀ arg ∈ args, arg.isLegible = true := by
  induction args with
  | nil => simp [areLegible]
  | cons arg args ih => simp [areLegible, ih]

namespace IsPlain

theorem isText_eq_false (h : e.IsPlain) : e.isText = false := by
  cases h <;> rfl

theorem isKeyword_eq_false (h : e.IsPlain) : e.isKeyword = false := by
  cases h <;> rfl

theorem isWord (h : e.IsPlain) : ∀ l ∈ e.leaves, l.IsWord := by
  induction h with
  | number hfinite =>
    intro l hl
    obtain rfl := List.mem_singleton.1 hl
    trivial
  | cell hcolumn hrow =>
    intro l hl
    obtain rfl := List.mem_singleton.1 hl
    exact Reference.isCell_iff.2 ⟨hcolumn, hrow⟩
  | operation _ _ ihleft ihright => exact List.forall_mem_append.2 ⟨ihleft, ihright⟩
  | call _ ih =>
    intro l hl
    obtain ⟨arg, harg, hl⟩ := mem_leavesOfArgs.1 hl
    exact ih arg harg l hl

/-- **Plain expressions are legible.** -/
theorem isLegible (h : e.IsPlain) : e.isLegible = true := by
  induction h with
  | number hfinite => exact hfinite
  | cell _ _ => rfl
  | operation hleft hright ihleft ihright =>
    simp [Expr.isLegible, ihleft, ihright, hleft.isText_eq_false, hright.isKeyword_eq_false]
  | call _ ih => exact areLegible_eq_true_iff.2 ih

end IsPlain

end Expr

namespace Term

theorem isLegible_of_isPlain {e : Expr} (h : e.IsPlain) : (Term.formula e).isLegible = true := by
  rw [isLegible, h.isLegible, h.isKeyword_eq_false]
  rfl

/-- Plain formulas with the same text are the same. -/
theorem eq_of_render_eq {e e' : Expr} (h : e.IsPlain) (h' : e'.IsPlain)
    (heq : (Term.formula e).render = (Term.formula e').render) : e = e' := by
  have hread := ofString_render_of_isLegible h.isWord (isLegible_of_isPlain h)
  rw [heq, ofString_render_of_isLegible h'.isWord (isLegible_of_isPlain h')] at hread
  exact (Term.formula.inj (Except.ok.inj hread)).symm

/-- **The text of a plain formula is read as the formula**, minus zeros and all. -/
theorem ofString_render_of_isPlain {e : Expr} (h : e.IsPlain) :
    Term.ofString (Term.formula e).render = .ok (.formula e) :=
  ofString_render_of_isLegible h.isWord (isLegible_of_isPlain h)

/-- Signs behind operators, behind commas and behind parentheses. -/
theorem ofString_render_signs :
    let e : Expr := .call .sum [.operation (.number (-2)) .eq (.call .sum []),
      .number (-0.5), .operation (.operation (.cell ⟨28, 7⟩) .sub (.number 1)) .sub (.number (-0))]
    e.IsPlain ∧ (Term.formula e).render = "=SUM((-2==SUM()),-0.5,(($AB7-1)--0))" ∧
      Term.ofString "=SUM((-2==SUM()),-0.5,(($AB7-1)--0))" = .ok (.formula e) := by
  intro e
  have hplain : e.IsPlain := by
    refine .call fun arg harg => ?_
    simp only [List.mem_cons, List.not_mem_nil, or_false] at harg
    rcases harg with rfl | rfl | rfl
    · exact .operation (.number rfl) (.call (by simp))
    · exact .number rfl
    · exact .operation (.operation (.cell (by decide) (by decide)) (.number rfl)) (.number rfl)
  have hrender : (Term.formula e).render = "=SUM((-2==SUM()),-0.5,(($AB7-1)--0))" := by
    decide +kernel
  exact ⟨hplain, hrender, hrender ▸ ofString_render_of_isPlain hplain⟩

end Term

end SharedSheet.Formula
