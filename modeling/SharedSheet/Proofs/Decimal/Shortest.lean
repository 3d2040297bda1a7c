import SharedSheet.Decimal.Shortest
import SharedSheet.Proofs.Decimal.Rounding

/-!
# Shortest decimals read back

The search for the shortest decimal tries each candidate by reading it back, so what it finds is
right without a word on the grids it looks at. What has to be shown is that the decimal it falls
back to, the exact one, reads back too. Every finite double has an exact decimal, since a negative
power of two is a power of five over a power of ten, and a quotient that a double can hold is not
rounded.

That a grid is found before the search ends, and that no coarser one is, is not needed here.

## Main results

* `unpack_of_isFinite` — a finite double is zero or what `binary` says
* `toFloat_exact` — the exact decimal of a double reads back
* `toFloat_shortest` — the shortest decimal of a finite double reads back
-/

namespace SharedSheet.Decimal

open Double Float.Model Float.Model.UnpackedFloat

/-! ### Doubles in parts -/

theorem exponentOf_eq (b : BitVec 64) : exponentOf b = b.toNat / 2 ^ 52 % 2 ^ 11 := by
  simp [exponentOf, unpackExponent, BitVec.extractLsb_toNat, Nat.shiftRight_eq_div_pow]

theorem mantissaOf_eq (b : BitVec 64) : mantissaOf b = b.toNat % 2 ^ 52 := by
  simp [mantissaOf, unpackMantissa, BitVec.extractLsb_toNat]

theorem toNat_unpackSign (b : BitVec 64) :
    (@unpackSign Format.binary64 b).toNat = b.toNat / 2 ^ 63 := by
  have := b.isLt
  simp [unpackSign, BitVec.extractLsb_toNat, Nat.shiftRight_eq_div_pow]
  omega

/-- The sign of a double. -/
def sign (x : Float) : Sign := if isNegative x then .negative else .positive

variable {x y : Float}

theorem signOf_toBits (x : Float) : signOf x.toModel.toBits.toBitVec = sign x := by
  have hsign : (@unpackSign Format.binary64 x.toModel.toBits.toBitVec).toNat =
      x.toBits.toNat / 2 ^ 63 := toNat_unpackSign _
  by_cases h : x.toBits.toNat ≥ Nat.pow 2 63
  · have hone : @unpackSign Format.binary64 x.toModel.toBits.toBitVec ≠ 0#1 := fun hzero => by
      rw [hzero] at hsign
      exact absurd hsign.symm (Nat.div_pos h (by decide)).ne'
    rw [signOf, Sign.ofBitVec, if_neg hone, sign, isNegative, decide_eq_true h, if_pos rfl]
  · have hzero : @unpackSign Format.binary64 x.toModel.toBits.toBitVec = 0#1 :=
      BitVec.eq_of_toNat_eq (hsign.trans (Nat.div_eq_of_lt (Nat.lt_of_not_le h)))
    rw [signOf, Sign.ofBitVec, if_pos hzero, sign, isNegative, decide_eq_false h]
    rfl

theorem binary_eq (x : Float) : binary x =
    if exponentOf x.toModel.toBits.toBitVec = 0 then
      (mantissaOf x.toModel.toBits.toBitVec, -1074)
    else (2 ^ 52 + mantissaOf x.toModel.toBits.toBitVec,
      (exponentOf x.toModel.toBits.toBitVec : Int) - 1075) := by
  rw [exponentOf_eq, mantissaOf_eq]
  rfl

/-- A finite double is zero, or its value is what `binary` says. -/
theorem unpack_of_isFinite (h : x.isFinite = true) :
    x.toModel.unpack = .zero (sign x) ∨ ∃ hcanonical : Canonical (binary x).1 (binary x).2,
      x.toModel.unpack = .finite (sign x) (binary x).1 (binary x).2 hcanonical.pos := by
  have hfinite : exponentOf x.toModel.toBits.toBitVec ≠ 2047 := exponentOf_ne_of_isFinite h
  have hlow : mantissaOf x.toModel.toBits.toBitVec < 2 ^ 52 := BitVec.isLt _
  have hhigh : exponentOf x.toModel.toBits.toBitVec < 2048 := BitVec.isLt _
  show UnpackedFloat.unpack Format.binary64 x.toModel.toBits.toBitVec = _ ∨ ∃ _,
    UnpackedFloat.unpack Format.binary64 x.toModel.toBits.toBitVec = _
  have hbinary := binary_eq x
  rw [← signOf_toBits]
  generalize x.toModel.toBits.toBitVec = b at *
  by_cases hexponent : exponentOf b = 0
  · rw [if_pos hexponent] at hbinary
    rcases Nat.eq_zero_or_pos (mantissaOf b) with hmantissa | hmantissa
    · exact .inl (unpack_of_zero hexponent hmantissa)
    · have hcanonical : Canonical (mantissaOf b) (-1074) :=
        ⟨hmantissa, Nat.lt_trans hlow (by decide), by decide, by decide, .inr rfl⟩
      simp only [hbinary]
      exact .inr ⟨hcanonical, unpack_of_subnormal hexponent hmantissa⟩
  · rw [if_neg hexponent] at hbinary
    have hcanonical : Canonical (2 ^ 52 + mantissaOf b) ((exponentOf b : Int) - 1075) :=
      ⟨Nat.add_pos_left (by decide) _, by omega, by omega, by omega, .inl (Nat.le_add_right _ _)⟩
    simp only [hbinary]
    exact .inr ⟨hcanonical, unpack_of_normal hexponent hfinite⟩

/-! ### Reading back -/

theorem beq_eq_true_iff : (x == y) = true ↔
    x.toModel.unpack ≠ .notANumber ∧ y.toModel.unpack ≠ .notANumber ∧
      (x.toModel.unpack = y.toModel.unpack ∨
        (x.toModel.unpack = .zero .positive ∧ y.toModel.unpack = .zero .negative) ∨
        (x.toModel.unpack = .zero .negative ∧ y.toModel.unpack = .zero .positive)) :=
  beq_iff_ne_notANumber_and_eq _ _

theorem beq_of_unpack_eq {s : Sign} {m : Nat} {e : Int} {hm : 0 < m}
    (hx : x.toModel.unpack = .finite s m e hm) (hy : y.toModel.unpack = .finite s m e hm) :
    (x == y) = true := by
  simp [beq_eq_true_iff, hx, hy]

theorem beq_of_unpack_eq_zero {s s' : Sign} (hx : x.toModel.unpack = .zero s)
    (hy : y.toModel.unpack = .zero s') : (x == y) = true := by
  cases s <;> cases s' <;> simp [beq_eq_true_iff, hx, hy]

/-- The sign of a decimal is put before its absolute value. -/
theorem unpack_toFloat_of_canonical {d : Decimal} {m : Nat} {e : Int} (h : Canonical m e)
    (hd : Float.ofScientific d.digits (decide (d.exponent < 0)) d.exponent.natAbs =
      .ofModel (Float.Model.pack (.finite .positive m e h.pos))) :
    d.toFloat.toModel.unpack =
      .finite (if d.negative then .negative else .positive) m e h.pos := by
  rw [toFloat, hd]
  cases d.negative with
  | false => exact h.unpack_pack .positive
  | true =>
    show (Float.Model.pack (Float.Model.pack (.finite .positive m e h.pos)).unpack.neg).unpack = _
    rw [h.unpack_pack .positive]
    exact h.unpack_pack .negative

/-- A value that a double can hold is written with a denominator that is a power of ten. -/
theorem ofScientific_exact {m : Nat} {e : Int} (h : Canonical m e) :
    Float.ofScientific (m * 2 ^ e.toNat * 5 ^ (-e).toNat) (decide (min e 0 < 0)) (min e 0).natAbs =
      .ofModel (Float.Model.pack (.finite .positive m e h.pos)) := by
  have hle := h.le
  rcases lt_or_ge e 0 with he | he
  · have hnum : e.toNat = 0 := by omega
    have hmin : min e 0 = e := by omega
    have habs : e.natAbs = (-e).toNat := by omega
    have hexponent : (-e : Int) = ((-e).toNat : Int) := by omega
    have hvalue : ((m * 5 ^ (-e).toNat : Nat) : ℚ) = 10 ^ (-e).toNat * (m * 2 ^ e) := by
      have htwo : (2 : ℚ) ^ (-e).toNat * 2 ^ e = 1 := by
        rw [← zpow_natCast, ← hexponent, ← zpow_add₀ (by norm_num), neg_add_cancel, zpow_zero]
      have hten : (10 : ℚ) ^ (-e).toNat = 5 ^ (-e).toNat * 2 ^ (-e).toNat := by
        rw [← mul_pow]
        norm_num
      calc ((m * 5 ^ (-e).toNat : Nat) : ℚ) = m * 5 ^ (-e).toNat * (2 ^ (-e).toNat * 2 ^ e) := by
            rw [htwo]
            push_cast
            ring
        _ = 10 ^ (-e).toNat * (m * 2 ^ e) := by
            rw [hten]
            ring
    rw [hnum, pow_zero, Nat.mul_one, hmin, habs, decide_eq_true he]
    exact ofScientific_eq_of_quotient h (Nat.mul_pos h.pos (Nat.pow_pos (by decide))) (by omega)
      (by omega) hvalue
  · have hden : (-e).toNat = 0 := by omega
    have hmin : min e 0 = 0 := by omega
    rw [hden, hmin, pow_zero, Nat.mul_one]
    exact ofScientific_eq_of_natural h he

/-- **The exact decimal of a double reads back.** -/
theorem toFloat_exact (h : Canonical (binary x).1 (binary x).2)
    (hx : x.toModel.unpack = .finite (sign x) (binary x).1 (binary x).2 h.pos) :
    ((exact x).toFloat == x) = true :=
  beq_of_unpack_eq (unpack_toFloat_of_canonical h (ofScientific_exact h)) hx

theorem unpack_toFloat_zero (negative : Bool) :
    ∃ s, (toFloat ⟨negative, 0, 0⟩).toModel.unpack = .zero s := by
  cases negative
  · exact ⟨.positive, rfl⟩
  · exact ⟨.negative, rfl⟩

theorem beq_zero_eq_true_iff : (x == 0) = true ↔ ∃ s, x.toModel.unpack = .zero s := by
  have hzero : (0 : Float).toModel.unpack = .zero .positive := rfl
  refine ⟨fun h => ?_, fun ⟨s, hs⟩ => beq_of_unpack_eq_zero hs hzero⟩
  obtain ⟨-, -, heq | ⟨heq, -⟩ | ⟨heq, -⟩⟩ := beq_eq_true_iff.1 h
  · exact ⟨_, heq.trans hzero⟩
  · exact ⟨_, heq⟩
  · exact ⟨_, heq⟩

/-- **The shortest decimal of a finite double reads back.** -/
theorem toFloat_shortest (h : x.isFinite = true) : ((shortest x).toFloat == x) = true := by
  unfold shortest
  split
  · rename_i hzero
    obtain ⟨s, hs⟩ := beq_zero_eq_true_iff.1 hzero
    obtain ⟨s', hs'⟩ := unpack_toFloat_zero (isNegative x)
    exact beq_of_unpack_eq_zero hs' hs
  · rename_i hzero
    cases hfound : (List.range 22).findSome? fun step => onGrid? x (coarsest x - (step : Nat)) with
    | some d =>
      obtain ⟨step, -, hstep⟩ := List.exists_of_findSome?_eq_some hfound
      obtain ⟨digits, -, hdigits⟩ := List.exists_of_findSome?_eq_some hstep
      simp only [Option.ite_none_right_eq_some, Option.some.injEq] at hdigits
      exact hdigits.2 ▸ hdigits.1
    | none =>
      obtain ⟨hcanonical, hunpack⟩ := (unpack_of_isFinite h).resolve_left fun hunpack =>
        hzero (beq_zero_eq_true_iff.2 ⟨_, hunpack⟩)
      exact toFloat_exact hcanonical hunpack

end SharedSheet.Decimal
