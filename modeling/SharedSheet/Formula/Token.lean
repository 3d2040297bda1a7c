import SharedSheet.Decimal.Basic
import SharedSheet.Formula.Operation
import SharedSheet.Reference.Column
import SharedSheet.Text.Blank

/-!
# Tokens

A formula is a row of tokens with white space between them. At each place the kinds are tried in a
fixed order: a function keyword, a numeral, an operator, a parenthesis, a reference or a range, a
comma, and then any run of characters without white space, parentheses and commas. Since every
character that is not white space starts a run of the last kind, each text has its tokens: nothing
is refused here.

A plus or minus sign belongs to the numeral after it unless the token before ends an operand.

## Main definitions

* `Token` — a kind, the text, and the byte offset at which it stands
* `Token.lead` — the kind and the length of the token at the start of a text
* `Token.scan`, `Token.ofString` — the tokens of a text
-/

namespace SharedSheet.Formula

namespace Token

/-- The kinds of tokens. -/
inductive Kind where
  | function
  | number
  | operator
  | leftParen
  | rightParen
  | reference
  | range
  | comma
  | text
  deriving DecidableEq

/-- Whether a token of a kind ends an operand, so that a sign after it is an operator. -/
def Kind.endsOperand : Kind → Bool
  | .number | .reference | .range | .text | .rightParen => true
  | _ => false

end Token

/-- A token of a formula. -/
structure Token where
  /-- What it is. -/
  kind : Token.Kind
  /-- The characters it consists of. -/
  text : String
  /-- The number of bytes before it. -/
  offset : Nat
  deriving DecidableEq

namespace Token

/-- Whether a character is an operator. The colon is read as one, although no operation has it. -/
def isOperator (c : Char) : Bool :=
  [ '+', '-', '*', '/', '<', '>', '=', '&', '|', ':' ].contains c

/-- Whether a character may stand in a text. -/
def isTextChar (c : Char) : Bool := !Text.isBlank c && c != '(' && c != ')' && c != ','

/-- The length of the function name at the start of a text. A letter or digit after the name makes
it another name. -/
def functionLength? (cs : List Char) : Option Nat :=
  Function.all.findSome? fun f =>
    let name := f.name.toList
    if name.isPrefixOf cs && !((cs.drop name.length).head?.any Char.isAlphanum) then
      some name.length
    else none

/-- The length of the reference, with its dollar sign, at the start of a text. -/
def referenceLength? : List Char → Option Nat
  | '$' :: cs =>
    match cs.takeWhile Column.isLetter, (cs.dropWhile Column.isLetter).takeWhile Char.isDigit with
    | _ :: letters, _ :: digits => some (letters.length + digits.length + 3)
    | _, _ => none
  | _ => none

/-- The kind of the token that starts with `c` and how many of the characters `cs` after it belong
to it. The white space before the token has been dropped. -/
def lead (signed : Bool) (c : Char) (cs : List Char) : Kind × Nat :=
  match if c = '=' then functionLength? cs else none with
  | some length => (.function, length)
  | none =>
    match (Decimal.split signed (c :: cs)).1 with
    | _ :: numeral => (.number, numeral.length)
    | [] =>
      if isOperator c then (.operator, 0)
      else if c = '(' then (.leftParen, 0)
      else if c = ')' then (.rightParen, 0)
      else
        match referenceLength? (c :: cs) with
        | some length =>
          match (c :: cs).drop length with
          | ':' :: rest =>
            match referenceLength? rest with
            | some length' => (.range, length + length')
            | none => (.reference, length - 1)
          | _ => (.reference, length - 1)
        | none => if c = ',' then (.comma, 0) else (.text, (cs.takeWhile isTextChar).length)

/-- The number of bytes of a text. -/
def byteCount (cs : List Char) : Nat := (cs.map Char.utf8Size).foldr (· + ·) 0

/-- The tokens of a text that stands after `offset` bytes, in a place where a sign may or may not
belong to a numeral. -/
def scan (offset : Nat) (signed : Bool) (cs : List Char) : List Token :=
  match cs with
  | [] => []
  | c :: cs =>
    if Text.isBlank c then scan (offset + c.utf8Size) signed cs
    else
      let (kind, more) := lead signed c cs
      let text := c :: cs.take more
      ⟨kind, String.ofList text, offset⟩ ::
        scan (offset + byteCount text) (!kind.endsOperand) (cs.drop more)
termination_by cs.length

/-- The tokens of a text. -/
def ofString (s : String) : List Token := scan 0 true s.toList

end Token

end SharedSheet.Formula
