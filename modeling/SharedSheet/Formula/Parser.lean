import SharedSheet.Formula.Expr
import SharedSheet.Formula.Token
import SharedSheet.Reference.Range

/-!
# Reading formulas

The grammar has one tier of operators, which group to the left:

    formula  := ['='] expr
    expr     := operand (operator operand)*
    operand  := number | text | reference | call | '(' expr ')'
    call     := keyword '(' [argument (',' argument)*] ')'
    argument := range | expr

A formula is read token by token. What has been read so far is a `Reading`: the parentheses and
calls that are still open, innermost first, and what may come next. Every token either moves the
reading on or is the first one that fits no formula, so a refused formula is refused at exactly
that token.

## Main definitions

* `ParseError` — a token that does not fit, a formula that ends too early, a bad range
* `Reading.next` — the reading after one more token
* `Reading.finish` — the expression, once all tokens are read
* `Term.ofString` — the term that a text writes
-/

namespace SharedSheet.Formula

/-- What a formula would have to go on with. -/
inductive Expected where
  | operand
  | reference
  | operator
  | openParen
  | separator
  | closeParen
  | endOfFormula
  deriving DecidableEq

/-- How an expectation is worded. -/
def Expected.wording : Expected → String
  | .operand => "term"
  | .reference => "reference"
  | .operator => "operator"
  | .openParen => "("
  | .separator => ", or )"
  | .closeParen => ")"
  | .endOfFormula => "end of formula"

/-- Why a text is no formula. -/
inductive ParseError where
  | unexpectedToken (offset : Nat) (expected : Expected) (found : String)
  | unexpectedEnd (offset : Nat) (expected : Expected)
  | invalidRange (range : String)
  deriving DecidableEq

/-- What is said of a text that is no formula. -/
def ParseError.message : ParseError → String
  | .unexpectedToken offset expected found =>
    "unexpected token at " ++ toString offset ++ ": expected " ++ expected.wording ++ ", found " ++
      found
  | .unexpectedEnd offset expected =>
    "unexpected end of formula at " ++ toString offset ++ ": expected " ++ expected.wording
  | .invalidRange range => "invalid range " ++ range

/-! ### Readings -/

/-- The left part of an operation whose right operand has not been read. -/
abbrev Pending := Option (Expr × Operator)

/-- The expression that a pending operation and its right operand make. -/
def Pending.complete : Pending → Expr → Expr
  | none, e => e
  | some (left, op), e => .operation left op e

/-- A call whose closing parenthesis has not been read. -/
structure OpenCall where
  /-- The operation that the call is the right operand of. -/
  before : Pending
  /-- The function called. -/
  function : Function
  /-- The arguments read so far, the last one first. -/
  args : List Expr

/-- The expression that an open call makes when it is closed. -/
def OpenCall.close (c : OpenCall) : Expr := c.before.complete (.call c.function c.args.reverse)

/-- An open call with a further argument. -/
def OpenCall.push (c : OpenCall) (e : Expr) : OpenCall := { c with args := e :: c.args }

/-- A parenthesis that has not been closed. -/
inductive Frame where
  /-- A group. -/
  | group (before : Pending)
  /-- A call with an argument under way. -/
  | call (c : OpenCall)

/-- What comes next. -/
inductive Place where
  /-- An operand. -/
  | operand (before : Pending)
  /-- The opening parenthesis of a call. -/
  | opening (before : Pending) (f : Function)
  /-- An argument, or the end of a call that has none so far. -/
  | argument (c : OpenCall) (first : Bool)
  /-- A comma or the end of a call, after a range. -/
  | separator (c : OpenCall)
  /-- An operator, or what may follow the expression `e`. -/
  | operator (e : Expr)

/-- What has been read of a formula. -/
structure Reading where
  /-- The open parentheses, innermost first. -/
  frames : List Frame
  /-- What comes next. -/
  place : Place

namespace Reading

/-- The reading of an expression before its first token. -/
def start : Reading := ⟨[], .operand none⟩

/-- The complaint about a token. -/
def refuse (t : Token) (expected : Expected) : Except ParseError Reading :=
  .error (.unexpectedToken t.offset expected t.text)

/-- The cells of a range token. -/
def rangeCells? (range : List Char) : Option (List Reference) :=
  match Reference.ofChars? (range.takeWhile (· != ':')),
      Reference.ofChars? (range.dropWhile (· != ':')).tail with
  | some corner, some corner' => Reference.rectangle? corner corner'
  | _, _ => none

/-- Reads the first token of an operand. -/
def operand (frames : List Frame) (before : Pending) (t : Token) : Except ParseError Reading :=
  match t.kind with
  | .number =>
    .ok ⟨frames, .operator (before.complete (.number (Decimal.ofNumeral t.text.toList).toFloat))⟩
  | .reference =>
    match Reference.ofChars? t.text.toList with
    | some r => .ok ⟨frames, .operator (before.complete (.cell r))⟩
    | none => refuse t .reference
  | .text => .ok ⟨frames, .operator (before.complete (.text t.text))⟩
  | .function =>
    match Function.ofName? t.text.toList.tail with
    | some f => .ok ⟨frames, .opening before f⟩
    | none => refuse t .operand
  | .leftParen => .ok ⟨.group before :: frames, .operand none⟩
  | .range => .error (.invalidRange t.text)
  | _ => refuse t .operand

/-- Reads the first token of an argument. -/
def argument (frames : List Frame) (c : OpenCall) (first : Bool) (t : Token) :
    Except ParseError Reading :=
  match t.kind, first with
  | .range, _ =>
    match rangeCells? t.text.toList with
    | some cells => .ok ⟨frames, .separator (cells.foldl (fun c r => c.push (.cell r)) c)⟩
    | none => .error (.invalidRange t.text)
  | .rightParen, true => .ok ⟨frames, .operator c.close⟩
  | _, _ => operand (.call c :: frames) none t

/-- Reads the token after an argument. -/
def separator (frames : List Frame) (c : OpenCall) (t : Token) : Except ParseError Reading :=
  match t.kind with
  | .comma => .ok ⟨frames, .argument c false⟩
  | .rightParen => .ok ⟨frames, .operator c.close⟩
  | _ => refuse t .separator

/-- Reads the token after an operand. -/
def operator (frames : List Frame) (e : Expr) (t : Token) : Except ParseError Reading :=
  match t.kind, frames with
  | .operator, frames =>
    match Operator.ofSymbol? t.text.toList with
    | some op => .ok ⟨frames, .operand (some (e, op))⟩
    | none => refuse t .operator
  | _, [] => refuse t .endOfFormula
  | .rightParen, .group before :: frames => .ok ⟨frames, .operator (before.complete e)⟩
  | _, .group _ :: _ => refuse t .closeParen
  | _, .call c :: frames => separator frames (c.push e) t

/-- The reading after one more token. -/
def next (r : Reading) (t : Token) : Except ParseError Reading :=
  match r.place with
  | .operand before => operand r.frames before t
  | .opening before f =>
    match t.kind with
    | .leftParen => .ok ⟨r.frames, .argument ⟨before, f, []⟩ true⟩
    | _ => refuse t .openParen
  | .argument c first => argument r.frames c first t
  | .separator c => separator r.frames c t
  | .operator e => operator r.frames e t

/-- The expression that has been read, or what would have to follow. -/
def finish (r : Reading) : Except Expected Expr :=
  match r.place, r.frames with
  | .operand _, _ => .error .operand
  | .opening _ _, _ => .error .openParen
  | .argument _ _, _ => .error .operand
  | .separator _, _ => .error .separator
  | .operator e, [] => .ok e
  | .operator _, .group _ :: _ => .error .closeParen
  | .operator _, .call _ :: _ => .error .separator

/-- The reading after further tokens. -/
def run (r : Reading) : List Token → Except ParseError Reading
  | [] => .ok r
  | t :: ts =>
    match r.next t with
    | .ok r => run r ts
    | .error e => .error e

end Reading

/-! ### Terms -/

/-- The tokens of a formula without the equals sign that it may start with. -/
def withoutEquals : List Token → List Token
  | t :: ts => if t.kind = .operator ∧ t.text = "=" then ts else t :: ts
  | [] => []

/-- The expression of a formula's tokens. The formula is `size` bytes long. -/
def Expr.ofTokens (size : Nat) (ts : List Token) : Except ParseError Expr :=
  match Reading.start.run (withoutEquals ts) with
  | .error e => .error e
  | .ok r =>
    match r.finish with
    | .ok e => .ok e
    | .error expected => .error (.unexpectedEnd size expected)

/-- Whether a text is meant as a formula: its first character that is not white space is an equals
sign. -/
def isFormulaText (s : String) : Bool := (Text.trimStart s.toList).head? == some '='

/-- The term of a text that is no formula: a number or reference if it is one token of that kind,
and a text otherwise. -/
def Term.literal (s : String) : Except ParseError Term :=
  match Token.ofString s with
  | [t] =>
    match t.kind with
    | .number => .ok (.bare (.number (Decimal.ofNumeral t.text.toList).toFloat))
    | .reference =>
      match Reference.ofChars? t.text.toList with
      | some r => .ok (.bare (.cell r))
      | none => .error (.unexpectedToken t.offset .reference t.text)
    | _ => .ok (.bare (.text (Text.trimmed s)))
  | _ => .ok (.bare (.text (Text.trimmed s)))

/-- The term that a text writes. -/
def Term.ofString (s : String) : Except ParseError Term :=
  if isFormulaText s then
    match Expr.ofTokens s.utf8ByteSize (Token.ofString s) with
    | .ok e => .ok (.formula e)
    | .error e => .error e
  else Term.literal s

end SharedSheet.Formula
