import SharedSheet.Proofs.Worksheet.Edits

/-!
# Asking what a term would give

A term can be evaluated beside a worksheet, against the outcomes that are there. Nothing is sorted
for it and no cycle is looked for. Still the answer is the outcome that the term has in a cell of
its own, up to one difference: a cell from which references lead to a cycle says so itself, and a
term beside the worksheet only reads a cell that does.

Both sides are functions of the same outcomes. For an evaluated worksheet the outcome of a cell is
made from the outcomes of its references, on a cycle or not, and this is one equation,
`Worksheet.find?_evaluate`. Paths and cycles do not come up after it.

## Main definitions

* `Evaluation.circular` — whether a cell says that references lead to a cycle
* `Evaluation.inCell` — the outcome of what a cell holds, made from the outcomes of its references

## Main results

* `Worksheet.find?_evaluate` — cells of an evaluated worksheet have these outcomes
* `Worksheet.asking_equals_writing` — a term beside the worksheet, and the same term written into it
-/

namespace SharedSheet

open Formula

/-! ### Outcomes from the outcomes of references -/

namespace Evaluation

/-- Whether a cell says that references lead from it to a cycle. -/
def circular (v : Evaluation) (r : Reference) : Bool :=
  match v.outcomes.find? r with
  | some (.error .cycle) => true
  | _ => false

/-- The outcome of what a cell holds. References that say that they lead to a cycle are passed on as
they are, before all other errors. -/
def inCell (v : Evaluation) (c : Content) : Outcome :=
  if c.references.any v.circular then .error .cycle else v.content c

variable {v v' : Evaluation} {c : Content} {r : Reference}

theorem circular_iff : v.circular r = true ↔ v.outcomes.find? r = some (.error .cycle) := by
  unfold circular
  split
  · rename_i h
    simp [h]
  · rename_i h
    simpa using h

theorem failed_of_circular (h : v.circular r = true) : v.failed r = true := by
  rw [failed, circular_iff.1 h]

theorem content_ne_cycle : v.content c ≠ .error .cycle := by
  cases c with
  | literal s => simp [content]
  | broken e => simp [content]
  | formula e => exact expr_ne_cycle

theorem inCell_eq_cycle_iff : v.inCell c = .error .cycle ↔ c.references.any v.circular = true := by
  unfold inCell
  split
  · simp_all
  · simp_all [content_ne_cycle]

/-- What is in a cell depends on the outcomes of its references. -/
theorem inCell_congr (h : ∀ r ∈ c.references, v.outcomes.find? r = v'.outcomes.find? r) :
    v.inCell c = v'.inCell c := by
  have hcircular : c.references.any v.circular = c.references.any v'.circular := by
    rw [Bool.eq_iff_iff, List.any_eq_true, List.any_eq_true]
    exact exists_congr fun r => and_congr_right fun hr => by rw [circular_iff, circular_iff, h r hr]
  rw [inCell, inCell, hcircular, content_congr h]

/-- What refers to a cell with an error has an error that names the first such cell. -/
theorem content_of_failed (hr : r ∈ c.references) (hfailed : v.failed r = true) :
    ∃ r', c.references.find? v.failed = some r' ∧ v.content c = .error (.readsFailed r') := by
  obtain ⟨r', hr'⟩ := Option.isSome_iff_exists.1 (List.find?_isSome.2 ⟨r, hr, hfailed⟩)
  refine ⟨r', hr', ?_⟩
  cases c with
  | literal s => cases hr
  | broken e => cases hr
  | formula e => rw [content, expr, show e.references.find? v.failed = some r' from hr']

end Evaluation

namespace Worksheet

variable {w : Worksheet} {r : Reference} {s : String}

theorem circular_evaluate_iff : w.evaluate.circular r = true ↔ w.ReachesCycle r := by
  rw [Evaluation.circular_iff]
  constructor
  · intro heq
    by_contra hno
    have hterm := w.settledBy_evaluate.outcomes r
    rw [heq] at hterm
    obtain ⟨s, hs⟩ := Option.isSome_iff_exists.1 hterm.symm
    have hcontent := w.settledBy_evaluate.find?_of_grounded hs (grounded_iff.2 hno)
    exact Evaluation.content_ne_cycle (Option.some.inj (hcontent.symm.trans heq))
  · intro hcycle
    obtain ⟨t, ht⟩ := hcycle.holdsFormula
    exact (w.settledBy_evaluate.cyclic r t ht).2 hcycle

/-- References lead to a cycle just when they do from one of the references. -/
theorem reachesCycle_iff_exists (hs : w.get? r = some s) :
    w.ReachesCycle r ↔ ∃ r' ∈ (Content.ofTerm s).references, w.ReachesCycle r' := by
  constructor
  · intro hcycle
    obtain ⟨r', hreads, hcycle'⟩ := hcycle.exists_reads
    exact ⟨r', ((reads_iff hs).1 hreads).1, hcycle'⟩
  · rintro ⟨r', hr', hcycle'⟩
    obtain ⟨t, s', hs', -⟩ := hcycle'.holdsFormula
    exact hcycle'.of_reads ((reads_iff hs).2 ⟨hr', by rw [hs']; rfl⟩)

/-- **The outcome of a cell is made from the outcomes of its references**, whatever cycles there
are. -/
theorem find?_evaluate (hs : w.get? r = some s) :
    w.evaluate.outcomes.find? r = some (w.evaluate.inCell (.ofTerm s)) := by
  have hany : (Content.ofTerm s).references.any w.evaluate.circular = true ↔ w.ReachesCycle r := by
    simp only [reachesCycle_iff_exists hs, List.any_eq_true, circular_evaluate_iff]
  by_cases hcycle : w.ReachesCycle r
  · rw [Evaluation.inCell, if_pos (hany.2 hcycle)]
    exact Evaluation.circular_iff.1 (circular_evaluate_iff.2 hcycle)
  · rw [Evaluation.inCell, if_neg (mt hany.1 hcycle)]
    exact w.settledBy_evaluate.find?_of_grounded hs (grounded_iff.2 hcycle)

/-! ### Asking and writing -/

/-- Writing to a cell that is not referred to leaves the others as they are. -/
theorem agreesOn_set {c : Reference} (hunread : ∀ r, ¬ w.RefersTo r c) (term : String) :
    w.AgreesOn (w.set c term) {r | r ≠ c} where
  get?_eq r hr := by rw [get?_set, if_neg hr]
  mem_of_refersTo r _ r' href heq := hunread r (heq ▸ href)

/-- **Asking equals writing.** A term is written to a cell that no formula refers to, and it does
not refer to this cell itself. Then it has the outcome there that it has beside the worksheet. The
exception are terms with a reference that says that it leads to a cycle: the cell says so too, and
beside the worksheet the term has an error that names the first of its references with an error.
All other cells keep their outcomes. It is of no account whether the cell had a term before. -/
theorem asking_equals_writing (w : Worksheet) {c : Reference} {term : String}
    (hunread : ∀ r, ¬ w.RefersTo r c) (hterm : term ≠ "")
    (hself : c ∉ (Content.ofTerm term).references) :
    ∃ written, (w.set c term).evaluate.outcomes.find? c = some written ∧
      (written ≠ .error .cycle → w.evaluate.term term = written) ∧
      (written = .error .cycle → ∃ r, (Content.ofTerm term).references.find? w.evaluate.failed =
        some r ∧ w.evaluate.term term = .error (.readsFailed r)) ∧
      (written = .error .cycle ↔ ∃ r ∈ (Content.ofTerm term).references,
        w.evaluate.outcomes.find? r = some (.error .cycle)) ∧
      ∀ r, r ≠ c → (w.set c term).evaluate.outcomes.find? r = w.evaluate.outcomes.find? r := by
  have hothers : ∀ r, r ≠ c →
      (w.set c term).evaluate.outcomes.find? r = w.evaluate.outcomes.find? r := fun r hr =>
    ((agreesOn_set hunread term).find?_evaluate hr).symm
  have hs : (w.set c term).get? c = some term := by rw [get?_set, if_pos rfl, if_neg hterm]
  have hwritten : (w.set c term).evaluate.outcomes.find? c =
      some (w.evaluate.inCell (.ofTerm term)) := by
    rw [find?_evaluate hs]
    exact congrArg some <| Evaluation.inCell_congr fun r hr =>
      hothers r fun heq => hself (heq ▸ hr)
  refine ⟨_, hwritten, fun hne => ?_, fun heq => ?_, ?_, hothers⟩
  · rw [Evaluation.inCell, if_neg (mt Evaluation.inCell_eq_cycle_iff.2 hne)]
    rfl
  · obtain ⟨r, hr, hcircular⟩ := List.any_eq_true.1 (Evaluation.inCell_eq_cycle_iff.1 heq)
    exact Evaluation.content_of_failed hr (Evaluation.failed_of_circular hcircular)
  · simp only [Evaluation.inCell_eq_cycle_iff, List.any_eq_true, Evaluation.circular_iff]

/-! ### An example -/

/-- What is no cell of a term is no reference of it. -/
theorem not_mem_references {s : String} {c : Reference}
    (h : (Term.ofString s).toOption.all (c ∉ ·.expr.cells) = true) :
    c ∉ (Content.ofTerm s).references := by
  unfold Content.ofTerm
  split
  · cases ht : Term.ofString s with
    | error e => exact List.not_mem_nil
    | ok t =>
      rw [ht] at h
      exact mt Expr.mem_references.1 (of_decide_eq_true h)
  · exact List.not_mem_nil

theorem not_refersTo {c : Reference}
    (h : ∀ row ∈ w.terms.rows, (Term.ofString row.2).toOption.all (c ∉ ·.expr.cells) = true)
    (r : Reference) : ¬ w.RefersTo r c := by
  rintro ⟨t, ⟨s, hs, hformula, ht⟩, hc⟩
  exact not_mem_references (h _ (Table.mem_rows_iff.2 hs))
    ((refersTo_iff hs).1 ⟨t, ⟨s, hs, hformula, ht⟩, hc⟩)

/-- `$A2` refers to itself. -/
def circling : Worksheet := ({ extent := ⟨10, 10⟩ } : Worksheet).apply
  [⟨⟨1, 1⟩, "x"⟩, ⟨⟨1, 2⟩, "=$A2"⟩]

/-- Nothing refers to `$B1`, and a term there that refers to `$A2` is the exception. -/
theorem asking_equals_writing_circling :
    (∀ r, ¬ circling.RefersTo r ⟨2, 1⟩) ∧ "=CONCAT($A1,$A2)" ≠ "" ∧
      ⟨2, 1⟩ ∉ (Content.ofTerm "=CONCAT($A1,$A2)").references ∧
      ∃ written, (circling.set ⟨2, 1⟩ "=CONCAT($A1,$A2)").evaluate.outcomes.find? ⟨2, 1⟩ =
        some written ∧
      (written ≠ .error .cycle → circling.evaluate.term "=CONCAT($A1,$A2)" = written) ∧
      (written = .error .cycle → ∃ r,
        (Content.ofTerm "=CONCAT($A1,$A2)").references.find? circling.evaluate.failed = some r ∧
          circling.evaluate.term "=CONCAT($A1,$A2)" = .error (.readsFailed r)) ∧
      (written = .error .cycle ↔ ∃ r ∈ (Content.ofTerm "=CONCAT($A1,$A2)").references,
        circling.evaluate.outcomes.find? r = some (.error .cycle)) ∧
      ∀ r, r ≠ ⟨2, 1⟩ → (circling.set ⟨2, 1⟩ "=CONCAT($A1,$A2)").evaluate.outcomes.find? r =
        circling.evaluate.outcomes.find? r := by
  have hunread : ∀ r, ¬ circling.RefersTo r ⟨2, 1⟩ := not_refersTo (by decide +kernel)
  have hself : ⟨2, 1⟩ ∉ (Content.ofTerm "=CONCAT($A1,$A2)").references :=
    not_mem_references (by decide +kernel)
  exact ⟨hunread, by decide, hself, asking_equals_writing circling hunread (by decide) hself⟩

end Worksheet

end SharedSheet
