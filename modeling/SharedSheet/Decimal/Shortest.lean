import SharedSheet.Decimal.Basic

/-!
# The fewest digits that read back

A double is written with the fewest decimal digits that read back as the same double. Of several
decimals with that many digits the one nearest to the double is taken, the upper one of two equally
near.

The double is an exact fraction. On the grid of the multiples of a power of ten only its two
neighbours can be nearest, so the search goes from coarse grids to fine ones and tries two
candidates on each.

## Main definitions

* `Decimal.magnitude` — the absolute value of a finite double as a fraction
* `Decimal.shortest` — the chosen decimal of a double
* `Decimal.positional` — a decimal written without an exponent
* `Decimal.text` — a double as text: never an exponent, no point for integers
-/

namespace SharedSheet.Decimal

/-! ### Doubles as fractions -/

/-- The absolute value of a finite double, as `mantissa * 2 ^ exponent`. -/
def binary (x : Float) : Nat × Int :=
  let bits := x.toBits.toNat
  let exponent : Nat := bits / Nat.pow 2 52 % Nat.pow 2 11
  let fraction := bits % Nat.pow 2 52
  if exponent = 0 then (fraction, -1074) else (Nat.pow 2 52 + fraction, (exponent : Int) - 1075)

/-- The absolute value of a finite double, as numerator and denominator. -/
def magnitude (x : Float) : Nat × Nat :=
  let (mantissa, exponent) := binary x
  (mantissa * Nat.pow 2 exponent.toNat, Nat.pow 2 (-exponent).toNat)

/-- Whether the sign of a double is minus, also of minus zero. -/
def isNegative (x : Float) : Bool := x.toBits.toNat ≥ Nat.pow 2 63

/-! ### Candidates -/

/-- The multiples of `10 ^ exponent` on both sides of a double's absolute value, the nearer one
first and the upper one first if both are equally near. -/
def neighbours (x : Float) (exponent : Int) : List Nat :=
  let (numerator, denominator) := magnitude x
  let numerator := numerator * Nat.pow 10 (-exponent).toNat
  let denominator := denominator * Nat.pow 10 exponent.toNat
  let lower := numerator / denominator
  if 2 * numerator < (2 * lower + 1) * denominator then [lower, lower + 1] else [lower + 1, lower]

/-- The nearer neighbour on a grid that reads back as the double, with the double's sign. -/
def onGrid? (x : Float) (exponent : Int) : Option Decimal :=
  (neighbours x exponent).findSome? fun digits =>
    let d : Decimal := ⟨isNegative x, digits, exponent⟩
    if d.toFloat == x then some d else none

/-- A power of ten above a double's absolute value, and at most a few steps above it. -/
def coarsest (x : Float) : Int :=
  let (numerator, denominator) := magnitude x
  ((numerator.log2 : Int) + 1 - denominator.log2) * 30103 / 100000 + 2

/-- A decimal that equals a finite double. -/
def exact (x : Float) : Decimal :=
  let (mantissa, exponent) := binary x
  ⟨isNegative x, mantissa * Nat.pow 2 exponent.toNat * Nat.pow 5 (-exponent).toNat, min exponent 0⟩

/-- The decimal with the fewest digits that reads back as a finite double. Seventeen digits always
suffice, and the coarsest grid lies less than five steps above the leading digit. -/
def shortest (x : Float) : Decimal :=
  if x == 0 then ⟨isNegative x, 0, 0⟩
  else ((List.range 22).findSome? fun (step : Nat) => onGrid? x (coarsest x - step)).getD (exact x)

/-! ### Writing -/

/-- A decimal without an exponent: a sign if it is negative, at least one digit before the point,
and a point only where the power of ten is negative. -/
def positional (d : Decimal) : List Char :=
  let digits := Nat.toDigits 10 d.digits
  let places := (-d.exponent).toNat
  let padded := List.replicate (places + 1 - digits.length) '0' ++ digits
  let written :=
    if places = 0 then digits ++ List.replicate (if d.digits = 0 then 0 else d.exponent.toNat) '0'
    else padded.take (padded.length - places) ++ '.' :: padded.drop (padded.length - places)
  if d.negative then '-' :: written else written

/-- A double as text. -/
def text (x : Float) : String :=
  if x.isNaN then "NaN"
  else if x.isInf then (if isNegative x then "-inf" else "inf")
  else String.ofList (positional (shortest x))

end SharedSheet.Decimal
