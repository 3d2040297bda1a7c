import Mathlib.Order.Preorder.Finite
import Mathlib.Logic.Relation
import SharedSheet.Proofs.Formula.References
import SharedSheet.Worksheet.Evaluation

/-!
# What the outcomes of cells have to be

The outcomes of a worksheet's cells depend on each other: the outcome of a formula is made from the
outcomes of the cells that it reads. So it is not said here how they are found.
`Worksheet.SettledBy` says of an evaluation that is finished that every outcome in it is the right
one, given the others. It speaks of terms, of references and of one relation, that a cell reads
another, and neither of a queue nor of an order in which cells are evaluated.

A cell from which one gets to a cycle has no outcome but the error that says so, and it does not
count as a cell that reads an error. For the other cells reading is well-founded, and this is why
there is at most one settled evaluation. The argument never leaves the cells that are read from
where it starts, so it also compares two worksheets that have these cells in common.

## Main definitions

* `Worksheet.RefersTo`, `Worksheet.Reads` — which cells a cell refers to, and which of them it reads
* `Worksheet.ReachesCycle` — where reading leads
* `Worksheet.AgreesOn` — two worksheets have cells in common, with all that is referred to from them
* `Worksheet.SettledBy` — every outcome is right, given the others

## Main results

* `Worksheet.reachesCycle_of_forall_exists_reads` — cells that all read one another lead to a cycle
* `Worksheet.SettledBy.of_outcome` — one equation for every cell makes an evaluation settled
* `Worksheet.SettledBy.find?_eq_of_agreesOn` — settled evaluations agree where their worksheets do
  and reading is well-founded
-/

namespace SharedSheet

open Formula

/-! ### Outcomes depend on the cells that are read -/

namespace Evaluation

variable {v v' : Evaluation} {e : Expr}

theorem failed_congr {r : Reference} (h : v.outcomes.find? r = v'.outcomes.find? r) :
    v.failed r = v'.failed r := by
  rw [failed, failed, h]

theorem context_congr {r : Reference} (h : v.outcomes.find? r = v'.outcomes.find? r) :
    v.context r = v'.context r := by
  rw [context, context, h]

theorem find?_failed_congr {rs : List Reference}
    (h : ∀ r ∈ rs, v.outcomes.find? r = v'.outcomes.find? r) :
    rs.find? v.failed = rs.find? v'.failed := by
  induction rs with
  | nil => rfl
  | cons r rs ih =>
    rw [List.find?_cons, List.find?_cons, failed_congr (h r List.mem_cons_self),
      ih fun q hq => h q (List.mem_cons_of_mem _ hq)]

/-- The outcome of an expression is made from the outcomes of its references. -/
theorem expr_congr (h : ∀ r ∈ e.references, v.outcomes.find? r = v'.outcomes.find? r) :
    v.expr e = v'.expr e := by
  have heval : e.eval v.context = e.eval v'.context :=
    Expr.eval_congr fun r hr => context_congr (h r hr)
  rw [expr, expr, find?_failed_congr h, heval]

theorem content_congr {c : Content}
    (h : ∀ r ∈ c.references, v.outcomes.find? r = v'.outcomes.find? r) :
    v.content c = v'.content c := by
  cases c with
  | literal s => rfl
  | broken e => rfl
  | formula e => exact expr_congr h

/-- An expression that is evaluated is not found to be on a cycle. -/
theorem expr_ne_cycle : v.expr e ≠ .error .cycle := by
  unfold expr
  split
  · simp
  · split <;> simp

end Evaluation

/-! ### Reading -/

namespace Worksheet

/-- The cell holds a formula that can be read. -/
def HoldsFormula (w : Worksheet) (r : Reference) (t : Term) : Prop :=
  ∃ s, w.get? r = some s ∧ isFormulaText s = true ∧ Term.ofString s = .ok t

/-- A cell refers to another one: it holds a formula in which the other one stands, with or without a
term of its own. -/
def RefersTo (w : Worksheet) (r r' : Reference) : Prop :=
  ∃ t, w.HoldsFormula r t ∧ r' ∈ t.references

/-- A cell reads another one: it holds a formula that refers to it, and the other one has a term. -/
def Reads (w : Worksheet) (r r' : Reference) : Prop :=
  ∃ t, w.HoldsFormula r t ∧ r' ∈ t.references ∧ (w.get? r').isSome = true

/-- From the cell one gets to a cell that lies on a cycle. -/
def ReachesCycle (w : Worksheet) (r : Reference) : Prop :=
  ∃ r', Relation.ReflTransGen w.Reads r r' ∧ Relation.TransGen w.Reads r' r'

variable {w w' : Worksheet} {r r' : Reference} {s : String} {t : Term}

theorem HoldsFormula.content (h : w.HoldsFormula r t) (hs : w.get? r = some s) :
    Content.ofTerm s = .formula t.expr := by
  obtain ⟨s', hs', hformula, hterm⟩ := h
  obtain rfl := Option.some.inj (hs.symm.trans hs')
  simp only [Content.ofTerm, hformula, hterm, if_true]

/-- The cells that are referred to, said of what the cell holds. -/
theorem refersTo_iff (hs : w.get? r = some s) :
    w.RefersTo r r' ↔ r' ∈ (Content.ofTerm s).references := by
  constructor
  · rintro ⟨t, ht, hr'⟩
    rw [ht.content hs]
    exact hr'
  · intro hr'
    cases hformula : isFormulaText s with
    | false => simp [Content.ofTerm, hformula, Content.references] at hr'
    | true =>
      cases ht : Term.ofString s with
      | error e => simp [Content.ofTerm, hformula, ht, Content.references] at hr'
      | ok t =>
        simp only [Content.ofTerm, hformula, ht, if_true] at hr'
        exact ⟨t, ⟨s, hs, hformula, ht⟩, hr'⟩

theorem reads_iff_refersTo : w.Reads r r' ↔ w.RefersTo r r' ∧ (w.get? r').isSome = true := by
  constructor
  · rintro ⟨t, ht, hr', hterm⟩
    exact ⟨⟨t, ht, hr'⟩, hterm⟩
  · rintro ⟨⟨t, ht, hr'⟩, hterm⟩
    exact ⟨t, ht, hr', hterm⟩

/-- The cells that are read, said of what the cell holds. -/
theorem reads_iff (hs : w.get? r = some s) :
    w.Reads r r' ↔ r' ∈ (Content.ofTerm s).references ∧ (w.get? r').isSome = true := by
  rw [reads_iff_refersTo, refersTo_iff hs]

/-- A cycle is reached by way of the first cell that is read. -/
theorem ReachesCycle.exists_reads (h : w.ReachesCycle r) :
    ∃ r', w.Reads r r' ∧ w.ReachesCycle r' := by
  obtain ⟨c, hpath, hcycle⟩ := h
  rcases Relation.ReflTransGen.cases_head hpath with rfl | ⟨r', hfirst, hrest⟩
  · obtain ⟨r', hfirst, hback⟩ := Relation.TransGen.head'_iff.1 hcycle
    exact ⟨r', hfirst, r, hback, hcycle⟩
  · exact ⟨r', hfirst, c, hrest, hcycle⟩

theorem ReachesCycle.of_reads (h : w.ReachesCycle r') (hreads : w.Reads r r') :
    w.ReachesCycle r := by
  obtain ⟨c, hpath, hcycle⟩ := h
  exact ⟨c, .head hreads hpath, hcycle⟩

theorem ReachesCycle.holdsFormula (h : w.ReachesCycle r) : ∃ t, w.HoldsFormula r t := by
  obtain ⟨r', ⟨t, ht, -⟩, -⟩ := h.exists_reads
  exact ⟨t, ht⟩

/-- The cells from which all paths of reading end. -/
abbrev Grounded (w : Worksheet) (r : Reference) : Prop := Acc (fun r' r => w.Reads r r') r

theorem Grounded.not_reachesCycle (h : w.Grounded r) : ¬ w.ReachesCycle r := by
  induction h with
  | intro r _ ih =>
    intro hcycle
    obtain ⟨r', hreads, hcycle'⟩ := hcycle.exists_reads
    exact ih r' hreads hcycle'

/-- **Cells each of which reads another one of them all lead to a cycle**, because there are only
so many of them. -/
theorem reachesCycle_of_forall_exists_reads {cells : List Reference}
    (h : ∀ r ∈ cells, ∃ r' ∈ cells, w.Reads r r') : ∀ r ∈ cells, w.ReachesCycle r := by
  choose! next hmem hreads using h
  intro r hr
  have hpath : ∀ n, next^[n] r ∈ cells := fun n => by
    induction n with
    | zero => exact hr
    | succ n ih => rw [Function.iterate_succ_apply']; exact hmem _ ih
  have hgo : ∀ m n, Relation.ReflTransGen w.Reads (next^[m] r) (next^[m + n] r) := fun m n => by
    induction n with
    | zero => exact .refl
    | succ n ih =>
      rw [← Nat.add_assoc, Function.iterate_succ_apply']
      exact ih.tail (hreads _ (hpath _))
  -- Two steps of the endless path lead to the same cell.
  obtain ⟨m, n, hlt, heq⟩ := (List.finite_toSet cells).exists_lt_map_eq_of_forall_mem hpath
  obtain ⟨k, rfl⟩ := Nat.exists_eq_add_of_le hlt
  refine ⟨next^[m] r, by simpa using hgo 0 m, ?_⟩
  have hback := hgo (m + 1) k
  rw [← heq, Function.iterate_succ_apply'] at hback
  exact .head' (hreads _ (hpath m)) hback

/-! ### Worksheets with cells in common -/

/-- Two worksheets have the same terms in some cells, and nothing else is referred to from there. -/
structure AgreesOn (w w' : Worksheet) (cells : Set Reference) : Prop where
  get?_eq : ∀ r ∈ cells, w.get? r = w'.get? r
  mem_of_refersTo : ∀ r ∈ cells, ∀ r', w.RefersTo r r' → r' ∈ cells

namespace AgreesOn

variable {cells : Set Reference}

theorem refl (w : Worksheet) : w.AgreesOn w Set.univ :=
  ⟨fun _ _ => rfl, fun _ _ _ _ => Set.mem_univ _⟩

theorem holdsFormula (h : w.AgreesOn w' cells) (hr : r ∈ cells) :
    w.HoldsFormula r t ↔ w'.HoldsFormula r t := by
  rw [HoldsFormula, HoldsFormula, h.get?_eq r hr]

theorem symm (h : w.AgreesOn w' cells) : w'.AgreesOn w cells where
  get?_eq r hr := (h.get?_eq r hr).symm
  mem_of_refersTo := by
    rintro r hr r' ⟨t, ht, hr'⟩
    exact h.mem_of_refersTo r hr r' ⟨t, (h.holdsFormula hr).2 ht, hr'⟩

/-- What a common cell reads in one worksheet it reads in the other. -/
theorem reads (h : w.AgreesOn w' cells) (hr : r ∈ cells) (hreads : w.Reads r r') :
    r' ∈ cells ∧ w'.Reads r r' := by
  obtain ⟨t, ht, hmem, hterm⟩ := hreads
  have hr' := h.mem_of_refersTo r hr r' ⟨t, ht, hmem⟩
  exact ⟨hr', t, (h.holdsFormula hr).1 ht, hmem, h.get?_eq r' hr' ▸ hterm⟩

theorem grounded (h : w.AgreesOn w' cells) (hr : r ∈ cells) (hground : w.Grounded r) :
    w'.Grounded r := by
  induction hground with
  | intro r _ ih =>
    refine ⟨r, fun r' hreads' => ?_⟩
    obtain ⟨hr', hreads⟩ := h.symm.reads hr hreads'
    exact ih r' hreads hr'

end AgreesOn

/-! ### Settled evaluations -/

/-- Every outcome is right, given the others. -/
structure SettledBy (w : Worksheet) (v : Evaluation) : Prop where
  /-- The cells with an outcome are those with a term. -/
  outcomes : ∀ r, (v.outcomes.find? r).isSome = (w.get? r).isSome
  /-- A term that is no formula is a value by itself. -/
  literal : ∀ r s, w.get? r = some s → isFormulaText s = false →
    v.outcomes.find? r = some (.ok (Value.ofTerm s))
  /-- A formula that cannot be read has the error of its reading. -/
  broken : ∀ r s e, w.get? r = some s → isFormulaText s = true → Term.ofString s = .error e →
    v.outcomes.find? r = some (.error (.formula (.parse e)))
  /-- The formulas from which one gets to a cycle, and no others, say so. -/
  cyclic : ∀ r t, w.HoldsFormula r t →
    (v.outcomes.find? r = some (.error .cycle) ↔ w.ReachesCycle r)
  /-- Any other formula names the first of its references that has an error. -/
  upstream : ∀ r t r', w.HoldsFormula r t → ¬ w.ReachesCycle r →
    t.references.find? v.failed = some r' →
    v.outcomes.find? r = some (.error (.readsFailed r'))
  /-- If none has an error the formula is evaluated where cells have their outcomes as values, and
  cells without a term are blank. -/
  evaluated : ∀ r t, w.HoldsFormula r t → ¬ w.ReachesCycle r →
    t.references.find? v.failed = none →
    v.outcomes.find? r = some ((t.expr.eval v.context).mapError fun e => .formula (.eval e))

namespace SettledBy

variable {v v' : Evaluation}

theorem find?_of_grounded (h : w.SettledBy v) (hs : w.get? r = some s) (hr : w.Grounded r) :
    v.outcomes.find? r = some (v.content (.ofTerm s)) := by
  cases hformula : isFormulaText s with
  | false => simp [h.literal r s hs hformula, Content.ofTerm, hformula, Evaluation.content]
  | true =>
    cases ht : Term.ofString s with
    | error e => simp [h.broken r s e hs hformula ht, Content.ofTerm, hformula, ht,
        Evaluation.content]
    | ok t =>
      have hholds : w.HoldsFormula r t := ⟨s, hs, hformula, ht⟩
      rw [hholds.content hs, Evaluation.content, Evaluation.expr]
      cases hfailed : t.expr.references.find? v.failed with
      | some r' => exact h.upstream r t r' hholds hr.not_reachesCycle hfailed
      | none =>
        rw [h.evaluated r t hholds hr.not_reachesCycle hfailed]
        cases t.expr.eval v.context <;> rfl

/-- One equation for every cell makes an evaluation settled. -/
theorem of_outcome (hnone : ∀ r, w.get? r = none → v.outcomes.find? r = none)
    (hcycle : ∀ r, w.ReachesCycle r → v.outcomes.find? r = some (.error .cycle))
    (hcontent : ∀ r s, w.get? r = some s → ¬ w.ReachesCycle r →
      v.outcomes.find? r = some (v.content (.ofTerm s))) : w.SettledBy v := by
  have hno : ∀ {r s}, w.get? r = some s → (∀ t, ¬ w.HoldsFormula r t) →
      v.outcomes.find? r = some (v.content (.ofTerm s)) := fun {r s} hs hnot =>
    hcontent r s hs fun hr => hr.holdsFormula.elim hnot
  have hexpr : ∀ {r t}, w.HoldsFormula r t → ¬ w.ReachesCycle r →
      v.outcomes.find? r = some (v.expr t.expr) := fun {r t} ht hr => by
    obtain ⟨s, hs, -⟩ := id ht
    rw [hcontent r s hs hr, ht.content hs]
    rfl
  constructor
  · intro r
    cases hs : w.get? r with
    | none => rw [hnone r hs]; rfl
    | some s =>
      by_cases hr : w.ReachesCycle r
      · rw [hcycle r hr]; rfl
      · rw [hcontent r s hs hr]; rfl
  · intro r s hs hformula
    rw [hno hs]
    · simp [Content.ofTerm, hformula, Evaluation.content]
    · rintro t ⟨s', hs', hformula', -⟩
      obtain rfl := Option.some.inj (hs.symm.trans hs')
      exact absurd hformula' (by simp [hformula])
  · intro r s e hs hformula he
    rw [hno hs]
    · simp [Content.ofTerm, hformula, he, Evaluation.content]
    · rintro t ⟨s', hs', -, ht⟩
      obtain rfl := Option.some.inj (hs.symm.trans hs')
      exact absurd (he.symm.trans ht) (by simp)
  · refine fun r t ht => ⟨fun heq => ?_, hcycle r⟩
    by_contra hr
    exact Evaluation.expr_ne_cycle (Option.some.inj ((hexpr ht hr).symm.trans heq))
  · intro r t r' ht hr hfailed
    rw [hexpr ht hr, Evaluation.expr, show t.expr.references.find? v.failed = some r' from hfailed]
  · intro r t ht hr hfailed
    rw [hexpr ht hr, Evaluation.expr, show t.expr.references.find? v.failed = none from hfailed]
    cases t.expr.eval v.context <;> rfl

theorem find?_eq_none (h : w.SettledBy v) (hr : w.get? r = none) : v.outcomes.find? r = none := by
  have hnone := h.outcomes r
  rw [hr] at hnone
  exact Option.not_isSome_iff_eq_none.1 (Bool.eq_false_iff.1 hnone)

/-- **Settled evaluations agree where their worksheets do and reading is well-founded.** The
induction is on reading, and a cell that is referred to without being read has no term in either. -/
theorem find?_eq_of_agreesOn {cells : Set Reference} (h : w.SettledBy v) (h' : w'.SettledBy v')
    (hagrees : w.AgreesOn w' cells) (hr : r ∈ cells) (hground : w.Grounded r) :
    v.outcomes.find? r = v'.outcomes.find? r := by
  induction hground with
  | intro r hreads ih =>
    cases hs : w.get? r with
    | none => rw [h.find?_eq_none hs, h'.find?_eq_none ((hagrees.get?_eq r hr).symm.trans hs)]
    | some s =>
      have hs' : w'.get? r = some s := (hagrees.get?_eq r hr).symm.trans hs
      rw [h.find?_of_grounded hs ⟨r, hreads⟩,
        h'.find?_of_grounded hs' (hagrees.grounded hr ⟨r, hreads⟩)]
      refine congrArg some (Evaluation.content_congr fun q hq => ?_)
      have hq' : q ∈ cells := hagrees.mem_of_refersTo r hr q ((refersTo_iff hs).2 hq)
      cases hterm : w.get? q with
      | some _ => exact ih q ((reads_iff hs).2 ⟨hq, by rw [hterm]; rfl⟩) hq'
      | none =>
        rw [h.find?_eq_none hterm, h'.find?_eq_none ((hagrees.get?_eq q hq').symm.trans hterm)]

/-- There is at most one outcome for a cell from which all paths of reading end. -/
theorem find?_eq (h : w.SettledBy v) (h' : w.SettledBy v') (hr : w.Grounded r) :
    v.outcomes.find? r = v'.outcomes.find? r :=
  h.find?_eq_of_agreesOn h' (.refl w) (Set.mem_univ r) hr

end SettledBy

end Worksheet

end SharedSheet
