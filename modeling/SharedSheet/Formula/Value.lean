import SharedSheet.Decimal.Shortest
import SharedSheet.Formula.Operation
import SharedSheet.Text.Blank
import SharedSheet.Text.Quoted

/-!
# Values

A cell or an expression has a number, a text or nothing as its value. An unset cell counts as zero
where a number is wanted and as the empty text where a text is wanted. A text that writes a numeral
counts as that number.

## Main definitions

* `Value`, `Value.shown` — the values and how they are shown
* `Value.ofTerm` — the value of a cell that holds a literal
* `Value.toNumber`, `Value.truth` — the readings as a number and as a condition
* `Value.same` — the comparison of the `=` operator
* `EvalError` — why an expression has no value
-/

namespace SharedSheet.Formula

/-- The value of a cell or an expression. -/
inductive Value where
  | number (x : Float)
  | text (s : String)
  | blank
  deriving DecidableEq

/-- How many arguments a function asks for. -/
inductive Arity where
  | exactly (n : Nat)
  | atLeastOne
  | oneNonBlank
  deriving DecidableEq

/-- How an arity is worded. -/
def Arity.wording : Arity → String
  | .exactly n => toString n
  | .atLeastOne => "at least 1"
  | .oneNonBlank => "at least one non-blank"

/-- Why an expression has no value. -/
inductive EvalError where
  | divisionByZero
  | notNumeric (operation found : String)
  | emptyAverage
  | arity (function : Function) (expected : Arity) (found : Nat)
  | unknownFunction (name : String)
  deriving DecidableEq

/-- What is said of an expression without a value. -/
def EvalError.message : EvalError → String
  | .divisionByZero => "division by zero"
  | .notNumeric operation found =>
    operation ++ " expects numeric arguments, got " ++ Text.quoted found
  | .emptyAverage => "AVG of an empty argument list"
  | .arity function expected found =>
    function.name ++ " expects " ++ expected.wording ++ " arguments, got " ++ toString found
  | .unknownFunction name => "unknown function " ++ name

/-- The function of a name, written bare or as a keyword with an equals sign in front. -/
def Function.ofKeyword (s : String) : Except EvalError Function :=
  let name := match s.toList with
    | '=' :: cs => cs
    | cs => cs
  match Function.ofName? name with
  | some f => .ok f
  | none => .error (.unknownFunction (String.ofList name))

namespace Value

/-- How a value is shown. -/
def shown : Value → String
  | .number x => Decimal.text x
  | .text s => s
  | .blank => ""

/-- The value of a cell that holds a literal: nothing but white space is no value, a numeral with
white space around it is a number, and everything else is a text, its white space included. -/
def ofTerm (s : String) : Value :=
  match Text.trim s.toList with
  | [] => .blank
  | cs =>
    match Decimal.number? cs with
    | some x => .number x
    | none => .text s

/-- The value of a comparison. -/
def ofBool (b : Bool) : Value := .number (if b then 1 else 0)

/-- Whether there is no value. -/
def isBlank : Value → Bool
  | .blank => true
  | _ => false

/-- The number that a value stands for in an operation. -/
def toNumber (operation : String) : Value → Except EvalError Float
  | .number x => .ok x
  | .blank => .ok 0
  | .text s =>
    match Decimal.number? (Text.trim s.toList) with
    | some x => .ok x
    | none => .error (.notNumeric operation s)

/-- The condition that a value stands for: everything but zero is true. -/
def truth (operation : String) (v : Value) : Except EvalError Bool :=
  match v.toNumber operation with
  | .ok x => .ok (x != 0)
  | .error e => .error e

/-- Equality as formulas see it: two numbers are compared as numbers, all else as it is shown. -/
def same : Value → Value → Bool
  | .number x, .number y => x == y
  | v, w => v.shown == w.shown

end Value

end SharedSheet.Formula
