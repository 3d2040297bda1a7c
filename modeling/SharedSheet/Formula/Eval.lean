import SharedSheet.Formula.Parser

/-!
# The value of an expression

An expression is evaluated in a context that gives every cell its value; an unset cell is blank.
Operands and arguments are evaluated first, from left to right, and the first error among them is
the error of the whole.

## Main definitions

* `Context` — the values of the cells
* `Operator.apply`, `Function.apply` — operations on values
* `Expr.eval` — the value of an expression
* `evaluate` — the value of a text
-/

namespace SharedSheet.Formula

/-- The values of the cells. -/
abbrev Context := Reference → Value

/-! ### Operators -/

/-- The value of an arithmetic operation or a comparison of two numbers. -/
def Operator.onNumbers (op : Operator) (x y : Float) : Except EvalError Value :=
  match op with
  | .sub => .ok (.number (x - y))
  | .mul => .ok (.number (x * y))
  | .div => if y == 0 then .error .divisionByZero else .ok (.number (x / y))
  | .lt => .ok (.ofBool (x < y))
  | .gt => .ok (.ofBool (x > y))
  | _ => .ok (.number (x + y))

/-- The value of an operation. The right operand of `&` and `|` is not looked at when the left one
decides. -/
def Operator.apply (op : Operator) (left right : Value) : Except EvalError Value :=
  let symbol := op.symbol.toString
  match op with
  | .eq => .ok (.ofBool (left.same right))
  | .and => do
    if ← left.truth symbol then return .ofBool (← right.truth symbol)
    return .ofBool false
  | .or => do
    if ← left.truth symbol then return .ofBool true
    return .ofBool (← right.truth symbol)
  | op => do op.onNumbers (← left.toNumber symbol) (← right.toNumber symbol)

/-! ### Functions -/

/-- The sum of numbers from left to right. The empty sum is minus zero, which added to any number
leaves it as it is. -/
def total (xs : List Float) : Float := xs.foldl (· + ·) (-0.0)

/-- The numbers of a sum or average: blanks are skipped and a text of any kind is refused. -/
def strictNumbers (f : Function) (args : List Value) : Except EvalError (List Float) :=
  (args.filter (!·.isBlank)).mapM fun
    | .number x => .ok x
    | v => .error (.notNumeric f.name v.shown)

/-- The numbers of a minimum or maximum: blanks are skipped, a text counts as the number that it
writes, and at least one number has to be left. -/
def looseNumbers (f : Function) (args : List Value) : Except EvalError (List Float) := do
  match ← (args.filter (!·.isBlank)).mapM (·.toNumber f.name) with
  | [] => .error (.arity f .oneNonBlank 0)
  | xs => .ok xs

/-- The lesser of two numbers; the first of two equal ones, and never one that is not a number. -/
def lesser (x y : Float) : Float := if y < x then y else x

/-- The greater of two numbers; the first of two equal ones, and never one that is not a number. -/
def greater (x y : Float) : Float := if y > x then y else x

/-- The value of a call. -/
def Function.apply (f : Function) (args : List Value) : Except EvalError Value :=
  match f with
  | .if =>
    match args with
    | [condition, yes, no] => do
      if ← condition.truth f.name then return yes
      return no
    | args => .error (.arity f (.exactly 3) args.length)
  | .sum => do return .number (total (← strictNumbers f args))
  | .avg => do
    match ← strictNumbers f args with
    | [] => .error .emptyAverage
    | xs => return .number (total xs / Float.ofNat xs.length)
  | .min => do return .number ((← looseNumbers f args).foldl lesser (1.0 / 0.0))
  | .max => do return .number ((← looseNumbers f args).foldl greater (-1.0 / 0.0))
  | .concat => .ok (.text (String.join (args.map (·.shown))))
  | .debug =>
    match args with
    | arg :: _ => .ok arg
    | [] => .error (.arity f .atLeastOne 0)
  | .copy =>
    match args with
    | [value, _] => .ok value
    | args => .error (.arity f (.exactly 2) args.length)

/-! ### Expressions -/

mutual

/-- The value of an expression. -/
def Expr.eval (ctx : Context) : Expr → Except EvalError Value
  | .number x => .ok (.number x)
  | .text s => .ok (.text s)
  | .cell r => .ok (ctx r)
  | .operation left op right =>
    match Expr.eval ctx left with
    | .error e => .error e
    | .ok v =>
      match Expr.eval ctx right with
      | .error e => .error e
      | .ok w => op.apply v w
  | .call f args =>
    match Expr.evalArgs ctx [] args with
    | .error e => .error e
    | .ok values => f.apply values

/-- The values of arguments, after those that have been found already, the last one first. -/
def Expr.evalArgs (ctx : Context) (found : List Value) : List Expr → Except EvalError (List Value)
  | [] => .ok found.reverse
  | arg :: args =>
    match Expr.eval ctx arg with
    | .error e => .error e
    | .ok v => Expr.evalArgs ctx (v :: found) args

end

/-- Why a text has no value. -/
inductive Error where
  | parse (e : ParseError)
  | eval (e : EvalError)
  deriving DecidableEq

/-- What is said of a text without a value. -/
def Error.message : Error → String
  | .parse e => e.message
  | .eval e => e.message

/-- The value of a text: of a formula, or of a bare number, text or reference. -/
def evaluate (ctx : Context) (s : String) : Except Error Value :=
  match Term.ofString s with
  | .error e => .error (.parse e)
  | .ok t =>
    match t.expr.eval ctx with
    | .error e => .error (.eval e)
    | .ok v => .ok v

/-- The cells that a text reads. A bare literal reads none. -/
def references (s : String) : Except ParseError (List Reference) :=
  match Term.ofString s with
  | .error e => .error e
  | .ok t => .ok (if t.isFormula then t.references else [])

end SharedSheet.Formula
