import Std.Data.HashSet.Lemmas
import SharedSheet.Formula.Eval

/-!
# The cells that an expression reads

The value of an expression depends on the values of the cells in it and on nothing else. The list of
these cells is made in two passes, one that runs through the expression with what it has found so
far, and one that drops what was seen before. Here both passes are said without what they carry
along: the cells of an expression are those of its parts one after another, and the references are
the cells without repetitions.

## Main results

* `Expr.cells_operation`, `Expr.cells_call` — the cells of a compound expression
* `Expr.references_eq_eraseDups` — the references are the cells, each once
* `Expr.eval_congr` — contexts that agree on the references give the same value
-/

namespace SharedSheet.Formula.Expr

/-! ### The cells of compound expressions -/

mutual

/-- Cells are pushed in front of those that were there. -/
theorem pushCells_eq (found : List Reference) : ∀ e : Expr,
    pushCells found e = pushCells [] e ++ found
  | .number _ => rfl
  | .text _ => rfl
  | .cell _ => rfl
  | .operation left _ right => by
    rw [pushCells, pushCells_eq (pushCells found left) right, pushCells_eq found left, pushCells,
      pushCells_eq (pushCells [] left) right, List.append_assoc]
  | .call _ args => pushCellsOfArgs_eq found args

theorem pushCellsOfArgs_eq (found : List Reference) : ∀ args : List Expr,
    pushCellsOfArgs found args = pushCellsOfArgs [] args ++ found
  | [] => rfl
  | arg :: args => by
    rw [pushCellsOfArgs, pushCellsOfArgs_eq (pushCells found arg) args, pushCells_eq found arg,
      pushCellsOfArgs, pushCellsOfArgs_eq (pushCells [] arg) args, List.append_assoc]

end

theorem cells_operation (left : Expr) (op : Operator) (right : Expr) :
    (operation left op right).cells = left.cells ++ right.cells := by
  rw [cells, pushCells, pushCells_eq, List.reverse_append]
  rfl

theorem cells_call (f : Function) (args : List Expr) :
    (call f args).cells = args.flatMap cells := by
  show (pushCellsOfArgs [] args).reverse = _
  induction args with
  | nil => rfl
  | cons arg args ih =>
    rw [pushCellsOfArgs, pushCellsOfArgs_eq, List.reverse_append, ih, List.flatMap_cons]
    rfl

/-! ### References -/

theorem collectNew_eq (seen : Std.HashSet Reference) (found rs : List Reference) :
    collectNew seen found rs = (rs.filter (!seen.contains ·)).eraseDups.reverse ++ found := by
  induction rs generalizing seen found with
  | nil => rfl
  | cons q rs ih =>
    rw [collectNew]
    by_cases hq : seen.contains q = true
    · rw [if_pos hq, ih, List.filter_cons_of_neg (by simp [hq])]
    · have hinsert : rs.filter (!(seen.insert q).contains ·) =
          (rs.filter (!seen.contains ·)).filter (fun r => !r == q) := by
        rw [List.filter_filter]
        refine List.filter_congr fun r _ => ?_
        rw [Std.HashSet.contains_insert, Bool.not_or, Bool.beq_comm]
      rw [if_neg hq, ih, hinsert, List.filter_cons_of_pos (by simp [hq]), List.eraseDups_cons,
        List.reverse_cons, List.append_assoc, List.singleton_append]

/-- **The references of an expression are the cells in it**, each where it first occurs. -/
theorem references_eq_eraseDups (e : Expr) : e.references = e.cells.eraseDups := by
  have hnew : e.cells.filter (!(∅ : Std.HashSet Reference).contains ·) = e.cells :=
    List.filter_eq_self.2 fun r _ => by simp
  rw [references, collectNew_eq, hnew, List.append_nil, List.reverse_reverse]

theorem mem_references {e : Expr} {r : Reference} : r ∈ e.references ↔ r ∈ e.cells := by
  rw [references_eq_eraseDups, List.mem_eraseDups]

/-! ### Values -/

variable {ctx ctx' : Context}

mutual

theorem eval_congr_cells : ∀ e : Expr, (∀ r ∈ e.cells, ctx r = ctx' r) → e.eval ctx = e.eval ctx'
  | .number _, _ => rfl
  | .text _, _ => rfl
  | .cell r, h => congrArg Except.ok (h r (by simp [cells, pushCells]))
  | .operation left op right, h => by
    rw [cells_operation] at h
    have hleft := eval_congr_cells left fun r hr => h r (List.mem_append_left _ hr)
    have hright := eval_congr_cells right fun r hr => h r (List.mem_append_right _ hr)
    rw [eval, eval, hleft, hright]
  | .call f args, h => by
    rw [cells_call] at h
    rw [eval, eval, evalArgs_congr_cells args [] fun arg harg r hr =>
      h r (List.mem_flatMap_of_mem harg hr)]

theorem evalArgs_congr_cells : ∀ (args : List Expr) (found : List Value),
    (∀ arg ∈ args, ∀ r ∈ arg.cells, ctx r = ctx' r) →
      evalArgs ctx found args = evalArgs ctx' found args
  | [], _, _ => rfl
  | arg :: args, found, h => by
    have harg := eval_congr_cells arg (h arg List.mem_cons_self)
    have hargs := fun found => evalArgs_congr_cells args found fun e he =>
      h e (List.mem_cons_of_mem _ he)
    rw [evalArgs, evalArgs, harg]
    simp only [hargs]

end

/-- **Contexts that agree on the references of an expression give it the same value.** -/
theorem eval_congr {e : Expr} (h : ∀ r ∈ e.references, ctx r = ctx' r) :
    e.eval ctx = e.eval ctx' :=
  eval_congr_cells e fun r hr => h r (mem_references.2 hr)

end SharedSheet.Formula.Expr
