import SharedSheet.Decimal.Digits

/-!
# Decimal numerals

A numeral is an optional sign, digits, and an optional point with further digits. It denotes the
double nearest to the number it writes, the even one of two equally near.

## Main definitions

* `Decimal` — sign, digits and power of ten
* `Decimal.toFloat` — the nearest double
* `Decimal.split` — the longest numeral at the start of a text, and the rest
* `Decimal.ofNumeral`, `Decimal.number?` — the number that a numeral writes
-/

namespace SharedSheet

/-- A decimal number: digits scaled by a power of ten, with a sign of its own so that minus zero
is there. -/
structure Decimal where
  /-- Whether there is a minus sign. -/
  negative : Bool
  /-- The digits, read as one natural. -/
  digits : Nat
  /-- The power of ten that scales them. -/
  exponent : Int
  deriving DecidableEq

namespace Decimal

/-- The double nearest to the number. -/
def toFloat (d : Decimal) : Float :=
  let x := Float.ofScientific d.digits (decide (d.exponent < 0)) d.exponent.natAbs
  if d.negative then -x else x

/-- Whether a character is a sign. -/
def isSign (c : Char) : Bool := c == '+' || c == '-'

/-- The longest run of digits, optionally with a point and at least one more digit, at the start
of a text, and what follows it. The run is empty if the text does not start with a digit. -/
def splitUnsigned (cs : List Char) : List Char × List Char :=
  let whole := cs.takeWhile Char.isDigit
  match whole, cs.dropWhile Char.isDigit with
  | [], _ => ([], cs)
  | whole, '.' :: rest =>
    match rest.takeWhile Char.isDigit with
    | [] => (whole, '.' :: rest)
    | fraction => (whole ++ '.' :: fraction, rest.dropWhile Char.isDigit)
  | whole, rest => (whole, rest)

/-- The longest numeral at the start of a text, and what follows it. A sign belongs to it only
where signs are allowed and a digit follows. The numeral is empty if there is none. -/
def split (signed : Bool) (cs : List Char) : List Char × List Char :=
  match cs with
  | c :: rest =>
    if signed && isSign c then
      match splitUnsigned rest with
      | ([], _) => ([], cs)
      | (numeral, rest) => (c :: numeral, rest)
    else splitUnsigned cs
  | [] => ([], [])

/-- The number that a numeral writes. -/
def ofNumeral (cs : List Char) : Decimal where
  negative := cs.head? == some '-'
  digits := Nat.ofDigitChars 10 (cs.filter Char.isDigit) 0
  exponent := -((cs.dropWhile (· != '.')).tail.length : Int)

/-- The number of a text that is one signed or unsigned numeral and nothing else. -/
def number? (cs : List Char) : Option Float :=
  match split true cs with
  | ([], _) => none
  | (numeral, []) => some (ofNumeral numeral).toFloat
  | _ => none

end Decimal

end SharedSheet
