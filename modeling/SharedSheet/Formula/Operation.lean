/-!
# Operators and functions

The formula language has nine operators, all of one precedence, and eight functions.

## Main definitions

* `Operator`, `Operator.symbol`, `Operator.ofSymbol?`
* `Function`, `Function.name`, `Function.ofName?`
-/

namespace SharedSheet.Formula

/-- The operators. -/
inductive Operator where
  | add
  | sub
  | mul
  | div
  | lt
  | gt
  | eq
  | and
  | or
  deriving DecidableEq

namespace Operator

/-- The operators in the order of their declaration. -/
def all : List Operator := [.add, .sub, .mul, .div, .lt, .gt, .eq, .and, .or]

/-- The sign that stands for an operator. -/
def symbol : Operator → Char
  | .add => '+'
  | .sub => '-'
  | .mul => '*'
  | .div => '/'
  | .lt => '<'
  | .gt => '>'
  | .eq => '='
  | .and => '&'
  | .or => '|'

/-- The operator of a sign. -/
def ofSymbol? (cs : List Char) : Option Operator := all.find? fun op => cs == [op.symbol]

end Operator

/-- The functions. -/
inductive Function where
  | if
  | sum
  | min
  | max
  | avg
  | concat
  | debug
  | copy
  deriving DecidableEq

namespace Function

/-- The functions in the order of their declaration. -/
def all : List Function := [.if, .sum, .min, .max, .avg, .concat, .debug, .copy]

/-- The name of a function. -/
def name : Function → String
  | .if => "IF"
  | .sum => "SUM"
  | .min => "MIN"
  | .max => "MAX"
  | .avg => "AVG"
  | .concat => "CONCAT"
  | .debug => "DEBUG"
  | .copy => "COPY"

/-- The function of a name. -/
def ofName? (cs : List Char) : Option Function := all.find? fun f => f.name.toList == cs

end Function

end SharedSheet.Formula
