/-!
# Naturals in decimal digits

The digits are the ten of ASCII, and a text of digits may have leading zeros.

## Main definitions

* `Decimal.natural?` — the number that a non-empty text of digits writes
* `Decimal.word?` — the same, where it fits 32 bits
* `Decimal.signedWord?` — the same, with an optional `+` in front
-/

namespace SharedSheet.Decimal

/-- The number that a non-empty text of digits writes. -/
def natural? (cs : List Char) : Option Nat :=
  if !cs.isEmpty && cs.all Char.isDigit then some (Nat.ofDigitChars 10 cs 0) else none

/-- The number that a text of digits writes, where it fits 32 bits. -/
def word? (cs : List Char) : Option UInt32 :=
  match natural? cs with
  | some n => if n < UInt32.size then some (UInt32.ofNat n) else none
  | none => none

/-- The number that a text of digits with an optional plus sign writes, where it fits 32 bits. -/
def signedWord? : List Char → Option UInt32
  | '+' :: cs => word? cs
  | cs => word? cs

end SharedSheet.Decimal
