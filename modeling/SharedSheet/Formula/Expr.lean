import Std.Data.HashSet.Basic
import SharedSheet.Formula.Operation
import SharedSheet.Formula.Value
import SharedSheet.Reference.Basic

/-!
# Expressions

## Main definitions

* `Expr` — numbers, texts, cells, operations and calls
* `Expr.render` — the formula text of an expression; operations stand in parentheses
* `Expr.references` — the cells that an expression reads, each once, in the order in which they
  first occur
* `Expr.same` — equality of expressions, numbers compared as numbers
* `Term`, `Term.render` — what a cell holds: a formula or a bare literal

## Implementation notes

A range in a call stands for all its cells, up to 65536 of them, so argument lists can be long.
Functions on them run through a list with what they have gathered so far.
-/

namespace SharedSheet.Formula

/-- An expression. -/
inductive Expr where
  | number (x : Float)
  | text (s : String)
  | cell (r : Reference)
  | operation (left : Expr) (op : Operator) (right : Expr)
  | call (f : Function) (args : List Expr)

namespace Expr

/-! ### Rendering -/

mutual

/-- Appends the formula text of an expression. -/
def write (out : String) : Expr → String
  | .number x => out ++ Decimal.text x
  | .text s => out ++ s
  | .cell r => out ++ r.toString
  | .operation left op right =>
    (write ((write (out.push '(') left).push op.symbol) right).push ')'
  | .call f [] => out ++ "=" ++ f.name ++ "()"
  | .call f (arg :: args) =>
    (writeArgs (write (out ++ "=" ++ f.name ++ "(") arg) args).push ')'

/-- Appends arguments with a comma before each. -/
def writeArgs (out : String) : List Expr → String
  | [] => out
  | arg :: args => writeArgs (write (out.push ',') arg) args

end

/-- The formula text of an expression. -/
def render (e : Expr) : String := write "" e

/-! ### The cells that are read -/

mutual

/-- Puts the cells of an expression in front of others, the last one first. -/
def pushCells (cells : List Reference) : Expr → List Reference
  | .number _ => cells
  | .text _ => cells
  | .cell r => r :: cells
  | .operation left _ right => pushCells (pushCells cells left) right
  | .call _ args => pushCellsOfArgs cells args

/-- Puts the cells of arguments in front of others, the last one first. -/
def pushCellsOfArgs (cells : List Reference) : List Expr → List Reference
  | [] => cells
  | arg :: args => pushCellsOfArgs (pushCells cells arg) args

end

/-- The cells of an expression in their order, as often as they occur. -/
def cells (e : Expr) : List Reference := (pushCells [] e).reverse

/-- Collects the elements of a list that have not been seen, each once, the last one first. -/
def collectNew (seen : Std.HashSet Reference) (found : List Reference) :
    List Reference → List Reference
  | [] => found
  | r :: rs => if seen.contains r then collectNew seen found rs
    else collectNew (seen.insert r) (r :: found) rs

/-- The cells that an expression reads, each once, in the order of first occurrence. -/
def references (e : Expr) : List Reference := (collectNew ∅ [] e.cells).reverse

/-! ### Equality -/

mutual

/-- Equality of expressions. Numbers are compared as numbers: the two zeros are equal, and no
number equals one that is not a number. -/
def same : Expr → Expr → Bool
  | .number x, .number y => x == y
  | .text s, .text t => s == t
  | .cell r, .cell r' => r == r'
  | .operation left op right, .operation left' op' right' =>
    op == op' && same left left' && same right right'
  | .call f args, .call f' args' => f == f' && sameArgs args args'
  | _, _ => false

/-- Equality of argument lists. -/
def sameArgs : List Expr → List Expr → Bool
  | [], [] => true
  | arg :: args, arg' :: args' => same arg arg' && sameArgs args args'
  | _, _ => false

end

end Expr

/-- What a cell holds: a formula, which starts with an equals sign, or a bare number, text or
reference. -/
inductive Term where
  | formula (e : Expr)
  | bare (e : Expr)

namespace Term

/-- The expression of a term. -/
def expr : Term → Expr
  | .formula e => e
  | .bare e => e

/-- Whether a term is a formula. -/
def isFormula : Term → Bool
  | .formula _ => true
  | .bare _ => false

/-- The text of a term. A call has an equals sign of its own. -/
def render : Term → String
  | .formula (.call f args) => (Expr.call f args).render
  | .formula e => Expr.write "=" e
  | .bare e => e.render

/-- The cells that a term reads. -/
def references (t : Term) : List Reference := t.expr.references

/-- Equality of terms, numbers compared as numbers. -/
def same : Term → Term → Bool
  | .formula e, .formula e' => e.same e'
  | .bare e, .bare e' => e.same e'
  | _, _ => false

end Term

end SharedSheet.Formula
