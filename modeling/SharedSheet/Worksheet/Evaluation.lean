import SharedSheet.Formula.Eval
import SharedSheet.Worksheet.Basic

/-!
# Evaluating a worksheet

Every cell with a term has an outcome: a value, or the reason why it has none. A formula is
evaluated after all the cells that it reads, so cells are taken in the order of a queue: first those
that read no other cell with a term, and each further cell as soon as the last one that it reads has
its outcome. A cell that never gets ready lies on a cycle of references or reads, directly or
through others, a cell on one.

A formula whose outermost operation is a copy into a cell also shows its value there, as long as
that cell has no term of its own. Of several copies into one cell the last one evaluated shows.

## Main definitions

* `CellError` — why a cell has no value
* `Content` — what a cell holds, read once
* `Evaluation` — the outcomes of all cells and the copied values
* `Evaluation.run` — the queue
* `Worksheet.evaluate` — the evaluation of a worksheet
* `Evaluation.term` — the value that a term would have in a cell of its own

## Implementation notes

A range makes a formula read up to 65536 cells. Only those with a term are waited for.
-/

namespace SharedSheet

open Formula

/-- Why a cell has no value. -/
inductive CellError where
  | formula (e : Formula.Error)
  | cycle
  | readsFailed (r : Reference)
  deriving DecidableEq

/-- What is said of a cell without a value. -/
def CellError.message : CellError → String
  | .formula e => e.message
  | .cycle => "circular reference"
  | .readsFailed r => "reads " ++ r.toString ++ ", which has an error"

/-- The value of a cell, or why it has none. -/
abbrev Outcome := Except CellError Value

/-! ### What cells hold -/

/-- What a cell holds. -/
inductive Content where
  /-- A term that is no formula. -/
  | literal (s : String)
  /-- A formula that cannot be read. -/
  | broken (e : ParseError)
  /-- A formula. -/
  | formula (e : Expr)

namespace Content

/-- What a term makes a cell hold. -/
def ofTerm (s : String) : Content :=
  if isFormulaText s then
    match Term.ofString s with
    | .ok t => .formula t.expr
    | .error e => .broken e
  else .literal s

/-- The cells that are read. -/
def references : Content → List Reference
  | .formula e => e.references
  | _ => []

/-- The cell into which a formula copies its value. -/
def copyTarget? : Content → Option Reference
  | .formula (.call .copy (_ :: .cell r :: _)) => some r
  | _ => none

end Content

/-! ### Evaluations -/

/-- The outcomes of cells, and the values copied into cells. -/
structure Evaluation where
  outcomes : Table Reference Outcome := ∅
  copies : Table Reference Value := ∅

namespace Evaluation

/-- The value that formulas read in a cell. -/
def context (v : Evaluation) : Context := fun r =>
  match v.outcomes.find? r with
  | some (.ok value) => value
  | _ => .blank

/-- Whether a cell has no value because of an error. -/
def failed (v : Evaluation) (r : Reference) : Bool :=
  match v.outcomes.find? r with
  | some (.error _) => true
  | _ => false

/-- The outcome of an expression. It has the first error that it reads, and is evaluated if it reads
none. -/
def expr (v : Evaluation) (e : Expr) : Outcome :=
  match e.references.find? v.failed with
  | some r => .error (.readsFailed r)
  | none =>
    match e.eval v.context with
    | .ok value => .ok value
    | .error e => .error (.formula (.eval e))

/-- The outcome of what a cell holds. -/
def content (v : Evaluation) : Content → Outcome
  | .literal s => .ok (Value.ofTerm s)
  | .broken e => .error (.formula (.parse e))
  | .formula e => v.expr e

/-- The outcome of a term outside the worksheet that reads its cells. -/
def term (v : Evaluation) (s : String) : Outcome := v.content (Content.ofTerm s)

/-- What a cell shows: its own value or a sign for its error, and without a term the value copied
into it. -/
def shown (v : Evaluation) (r : Reference) : String :=
  match v.outcomes.find? r with
  | some (.ok value) => value.shown
  | some (.error .cycle) => "#CYCLE"
  | some (.error _) => "#ERR"
  | none =>
    match v.copies.find? r with
    | some value => value.shown
    | none => ""

/-- Evaluates a cell. -/
def record (v : Evaluation) (r : Reference) (c : Content) : Evaluation where
  outcomes := v.outcomes.insert r (v.content c)
  copies :=
    match v.content c, c.copyTarget? with
    | .ok value, some target => v.copies.insert target value
    | _, _ => v.copies

/-! ### The queue -/

/-- A cell that waits for its outcome. -/
structure Task where
  cell : Reference
  content : Content
  /-- The cells that it reads and that still have to get their outcome. -/
  unread : List Reference

/-- Whether a cell waits for no other one. -/
def Task.isReady (t : Task) : Bool := t.unread.isEmpty

/-- A waiting cell after another one got its outcome. -/
def Task.after (r : Reference) (t : Task) : Task := { t with unread := t.unread.filter (· ≠ r) }

/-- The waiting cells after one got its outcome: those that are ready now, and the others. -/
def release (r : Reference) (waiting : List Task) : List Task × List Task :=
  (waiting.map (Task.after r)).partition (·.isReady)

theorem length_release (r : Reference) (waiting : List Task) :
    (release r waiting).1.length + (release r waiting).2.length = waiting.length := by
  simp only [release, List.partition_eq_filter_filter]
  induction waiting with
  | nil => rfl
  | cons t ts ih =>
    cases h : (Task.after r t).isReady <;>
      simp only [List.map_cons, List.filter_cons, h, Function.comp_apply, Bool.not_true,
        Bool.not_false, Bool.false_eq_true, if_true, if_false, List.length_cons] <;> omega

/-- Evaluates the cells of a queue, and the waiting cells as they get ready. Returns those that
never do. -/
def run (v : Evaluation) (queue waiting : List Task) : Evaluation × List Task :=
  match queue with
  | [] => (v, waiting)
  | t :: queue =>
    run (v.record t.cell t.content) (queue ++ (release t.cell waiting).1)
      (release t.cell waiting).2
termination_by queue.length + waiting.length
decreasing_by
  have := length_release t.cell waiting
  simp only [List.length_append, List.length_cons]
  omega

/-- Gives the cells that never get ready their error. -/
def refuse (v : Evaluation) (ts : List Task) : Evaluation :=
  { v with outcomes := ts.foldl (fun out t => out.insert t.cell (.error .cycle)) v.outcomes }

end Evaluation

namespace Worksheet

/-- The cells with a term, each with the cells that it waits for. -/
def tasks (w : Worksheet) : List Evaluation.Task :=
  w.terms.rows.map fun (r, s) =>
    let c := Content.ofTerm s
    ⟨r, c, c.references.filter w.terms.contains⟩

/-- The outcomes of all cells with a term. -/
def evaluate (w : Worksheet) : Evaluation :=
  let (v, cyclic) := Evaluation.run {} (w.tasks.filter (·.isReady)) (w.tasks.filter (!·.isReady))
  v.refuse cyclic

end Worksheet

end SharedSheet
