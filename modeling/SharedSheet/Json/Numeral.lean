/-!
# Numerals of JSON

A numeral is an optional minus sign, digits without a needless zero in front, and optionally a
fraction and an exponent, each with at least one digit. It can be read as a natural number or as a
double.

The double is found in two steps. The digits are gathered into a natural of 64 bits; those that no
longer fit count as a power of ten before the point and are dropped behind it. The natural is then
rounded to a double, and multiplied or divided by the power of ten, which rounds again. Numerals too
large for a double are refused.

## Main definitions

* `Numeral.split?` — the numeral at the start of a text
* `Numeral.natural?`, `Numeral.toFloat?` — the readings
-/

namespace SharedSheet.Json

/-- A numeral. -/
structure Numeral where
  /-- Whether there is a minus sign. -/
  negative : Bool
  /-- The digits before the point. -/
  whole : List Char
  /-- The digits after the point; none without a point. -/
  fraction : List Char
  /-- The sign and digits of the exponent; no digits without an exponent. -/
  exponentNegative : Bool
  exponent : List Char
  deriving DecidableEq

namespace Numeral

/-! ### The grammar -/

/-- The digits at the start of a text, at least one, and what follows them. -/
def splitDigits? (cs : List Char) : Option (List Char × List Char) :=
  match cs.takeWhile Char.isDigit with
  | [] => none
  | digits => some (digits, cs.dropWhile Char.isDigit)

/-- The digits before the point at the start of a text, and what follows them. A zero in front of
other digits is refused. -/
def splitWhole? (cs : List Char) : Option (List Char × List Char) :=
  match splitDigits? cs with
  | some ('0' :: _ :: _, _) => none
  | found => found

/-- The fraction at the start of a text, and what follows it. A point without digits is refused. -/
def splitFraction? : List Char → Option (List Char × List Char)
  | '.' :: cs => splitDigits? cs
  | cs => some ([], cs)

/-- The sign and the digits of an exponent after its letter, and what follows them. -/
def splitPower? : List Char → Option ((Bool × List Char) × List Char)
  | '-' :: cs => (splitDigits? cs).map fun (digits, rest) => ((true, digits), rest)
  | '+' :: cs => (splitDigits? cs).map fun (digits, rest) => ((false, digits), rest)
  | cs => (splitDigits? cs).map fun (digits, rest) => ((false, digits), rest)

/-- The exponent at the start of a text, and what follows it. The letter without digits is
refused. -/
def splitExponent? : List Char → Option ((Bool × List Char) × List Char)
  | 'e' :: cs => splitPower? cs
  | 'E' :: cs => splitPower? cs
  | cs => some ((false, []), cs)

/-- The numeral after its sign at the start of a text, and what follows it. -/
def splitUnsigned? (negative : Bool) (cs : List Char) : Option (Numeral × List Char) := do
  let (whole, cs) ← splitWhole? cs
  let (fraction, cs) ← splitFraction? cs
  let ((exponentNegative, exponent), cs) ← splitExponent? cs
  some (⟨negative, whole, fraction, exponentNegative, exponent⟩, cs)

/-- The numeral at the start of a text, and what follows it. -/
def split? : List Char → Option (Numeral × List Char)
  | '-' :: cs => splitUnsigned? true cs
  | cs => splitUnsigned? false cs

/-! ### Numerals take up characters -/

theorem length_splitDigits {cs rest digits : List Char}
    (h : splitDigits? cs = some (digits, rest)) : rest.length < cs.length := by
  have htake : (cs.takeWhile Char.isDigit).length + (cs.dropWhile Char.isDigit).length =
      cs.length := by
    rw [← List.length_append, List.takeWhile_append_dropWhile]
  unfold splitDigits? at h
  split at h
  · simp at h
  · rename_i hne
    obtain ⟨-, rfl⟩ := Prod.mk.inj (Option.some.inj h)
    have := List.length_pos_iff.2 hne
    omega

theorem length_splitFraction {cs rest digits : List Char}
    (h : splitFraction? cs = some (digits, rest)) : rest.length ≤ cs.length := by
  unfold splitFraction? at h
  split at h
  · exact Nat.le_succ_of_le (Nat.le_of_lt (length_splitDigits h))
  · obtain ⟨-, rfl⟩ := Prod.mk.inj (Option.some.inj h)
    simp

theorem length_splitPower {cs rest : List Char} {power : Bool × List Char}
    (h : splitPower? cs = some (power, rest)) : rest.length ≤ cs.length := by
  unfold splitPower? at h
  split at h <;>
  · obtain ⟨⟨digits, rest'⟩, hdigits, heq⟩ := Option.map_eq_some_iff.1 h
    obtain ⟨-, rfl⟩ := Prod.mk.inj heq
    have := length_splitDigits hdigits
    grind

theorem length_splitExponent {cs rest : List Char} {power : Bool × List Char}
    (h : splitExponent? cs = some (power, rest)) : rest.length ≤ cs.length := by
  unfold splitExponent? at h
  split at h
  · exact Nat.le_succ_of_le (length_splitPower h)
  · exact Nat.le_succ_of_le (length_splitPower h)
  · obtain ⟨-, rfl⟩ := Prod.mk.inj (Option.some.inj h)
    simp

theorem length_splitWhole {cs rest digits : List Char}
    (h : splitWhole? cs = some (digits, rest)) : rest.length < cs.length := by
  unfold splitWhole? at h
  split at h
  · simp at h
  · exact length_splitDigits h

theorem length_splitUnsigned {negative : Bool} {cs rest : List Char} {n : Numeral}
    (h : splitUnsigned? negative cs = some (n, rest)) : rest.length < cs.length := by
  simp only [splitUnsigned?, Option.bind_eq_bind, Option.bind_eq_some_iff, Prod.exists,
    Option.some.injEq, Prod.mk.injEq] at h
  obtain ⟨whole, cs₁, hwhole, fraction, cs₂, hfraction, negative', digits, cs₃, hexponent, -,
    rfl⟩ := h
  have := length_splitWhole hwhole
  have := length_splitFraction hfraction
  have := length_splitExponent hexponent
  omega

/-- A numeral has at least one character. -/
theorem length_split {cs rest : List Char} {n : Numeral} (h : split? cs = some (n, rest)) :
    rest.length < cs.length := by
  unfold split? at h
  split at h
  · exact Nat.lt_succ_of_lt (length_splitUnsigned h)
  · exact length_splitUnsigned h

/-! ### As a natural number -/

/-- Whether there is neither a fraction nor an exponent. -/
def isInteger (n : Numeral) : Bool := n.fraction.isEmpty && n.exponent.isEmpty

/-- The natural number of a numeral without sign, fraction and exponent, if it fits 64 bits. -/
def natural? (n : Numeral) : Option Nat :=
  let value := Nat.ofDigitChars 10 n.whole 0
  if !n.negative && n.isInteger && value < UInt64.size then some value else none

/-! ### As a double -/

/-- Appends digits to a natural as long as it fits 64 bits. Returns it with the digits left. -/
def gather (n : Nat) : List Char → Nat × List Char
  | [] => (n, [])
  | c :: cs =>
    let next := n * 10 + (c.toNat - '0'.toNat)
    if next < UInt64.size then gather next cs else (n, c :: cs)

/-- The largest power of ten that is a double. -/
def largestPower : Nat := 308

/-- A power of ten as a double. -/
def powerOfTen (n : Nat) : Float := Float.ofScientific 1 false n

/-- A double divided by a power of ten, the largest power at a time. -/
def divide (x : Float) (power : Nat) : Float :=
  if power ≤ largestPower then x / powerOfTen power
  else if x == 0 then x
  else divide (x / powerOfTen largestPower) (power - largestPower)
termination_by power
decreasing_by
  have : largestPower = 308 := rfl
  omega

/-- A double multiplied by a power of ten, unless that is too large. -/
def multiply? (x : Float) (power : Nat) : Option Float :=
  if power ≤ largestPower then
    let y := x * powerOfTen power
    if y.isInf then none else some y
  else if x == 0 then some x
  else none

/-- The double of a numeral, unless it is too large. -/
def toFloat? (n : Numeral) : Option Float :=
  let (digits, left) := gather 0 n.whole
  let (digits, dropped) := gather digits n.fraction
  let places : Int := left.length - (n.fraction.length - dropped.length)
  let exponent : Int := Nat.ofDigitChars 10 n.exponent 0
  let power := if n.exponentNegative then places - exponent else places + exponent
  let size :=
    if digits = 0 then some 0
    else if power < 0 then some (divide (Float.ofNat digits) power.natAbs)
    else multiply? (Float.ofNat digits) power.natAbs
  size.map fun x => if n.negative then -x else x

end Numeral

end SharedSheet.Json
