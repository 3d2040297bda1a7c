import Mathlib

/-!
# Rounding to doubles

Numerals are read by the library's conversion, which rounds to the nearest double. Here it is
shown not to round what needs no rounding: a natural that a double can hold, and a quotient of a
natural by a power of ten that a double can hold.

All operations on doubles round a mantissa and an exponent, and they split the same number
differently. `round_scaled` says that the split does not matter, since a shift that loses nothing
but zeros leaves no trace. So a number in `Canonical` form, which is how a double holds it, comes
out unchanged wherever it occurs as the exact result (`Canonical.round_scaled`,
`Canonical.div`).

Small numbers take a path of their own: a mantissa below `2 ^ 53` and one of the powers of ten up
to `10 ^ 22` are both exact as doubles and are multiplied or divided as doubles. That gives the same
(`ofScientific_false`).

## Main definitions

* `Canonical` — the mantissa and exponent of a finite double that is not zero
* `signOf`, `exponentOf`, `mantissaOf` — the parts of the bits of a double

## Main results

* `round_scaled` — rounding does not see how a number is split
* `Canonical.unpack_pack` — a double holds what it is made of
* `Canonical.div` — a quotient that a double can hold is not rounded
* `ofScientific_eq_of_natural`, `ofScientific_eq_of_quotient` — decimals that are not rounded
-/

namespace SharedSheet.Double

open Float.Model Float.Model.UnpackedFloat

/-! ### Exact shifts -/

theorem shiftRight_succ (em : ExtendedMantissa) (n : Nat) :
    em >>> (n + 1) = em.shiftRightOne >>> n := by
  show Nat.repeat _ (n + 1) em = Nat.repeat _ n em.shiftRightOne
  induction n with
  | zero => rfl
  | succ n ih => rw [Nat.repeat, ih, Nat.repeat]

/-- Zeros that are shifted out leave no trace. -/
theorem shiftRight_scaled (m n j : Nat) :
    ExtendedMantissa.mk (m * 2 ^ j) false false >>> (n + j) =
      ExtendedMantissa.mk m false false >>> n := by
  induction j with
  | zero => rw [Nat.pow_zero, Nat.mul_one, Nat.add_zero]
  | succ j ih =>
    have hhalf : (ExtendedMantissa.mk (m * 2 ^ (j + 1)) false false).shiftRightOne =
        .mk (m * 2 ^ j) false false := by
      have hdouble : m * 2 ^ (j + 1) = 2 * (m * 2 ^ j) := by ring
      simp [ExtendedMantissa.shiftRightOne, hdouble]
    rw [← Nat.add_assoc, shiftRight_succ, hhalf, ih]

theorem log2_scaled {m : Nat} (hm : 0 < m) (j : Nat) : (m * 2 ^ j).log2 = m.log2 + j := by
  induction j with
  | zero => rw [Nat.pow_zero, Nat.mul_one, Nat.add_zero]
  | succ j ih =>
    have hdouble : m * 2 ^ (j + 1) = 2 * (m * 2 ^ j) := by ring
    rw [hdouble, Nat.log2_two_mul (Nat.mul_pos hm (Nat.two_pow_pos j)).ne', ih, Nat.add_assoc]

/-! ### Rounding -/

theorem targetExponent_eq (total : Int) :
    Format.binary64.targetExponent total = max (total - 53) (-1074) := rfl

/-- A mantissa of at least 53 binary digits has no fewer digits than are kept. -/
theorem le_targetExponent {m : Nat} (h : 52 ≤ m.log2) (e : Int) :
    e ≤ Format.binary64.targetExponent (totalExponent m e) := by
  rw [targetExponent_eq, totalExponent]
  omega

/-- **Rounding does not see how a number is split into mantissa and exponent**, as long as the
mantissa has no fewer digits than are kept. -/
theorem round_scaled (s : Sign) {m : Nat} {e : Int} (hm : 0 < m)
    (he : e ≤ Format.binary64.targetExponent (totalExponent m e)) (j : Nat) :
    roundWithAccuracy Format.binary64 s (m * 2 ^ j) (e - j) .exact =
      roundWithAccuracy Format.binary64 s m e .exact := by
  have htotal : totalExponent (m * 2 ^ j) (e - j) = totalExponent m e := by
    rw [totalExponent, totalExponent, log2_scaled hm]
    push_cast
    ring
  have hshift : shiftToTargetExponent Format.binary64 (m * 2 ^ j) (e - j) .exact =
      shiftToTargetExponent Format.binary64 m e .exact := by
    rw [shiftToTargetExponent, shiftToTargetExponent, htotal]
    generalize Format.binary64.targetExponent (totalExponent m e) = t at he
    have hamount : (t - (e - j)).toNat = (t - e).toNat + j := by omega
    simp only [shiftToExponent, hamount, ExtendedMantissa.ofMantissaAndAccuracy, shiftRight_scaled]
    congr 1
    omega
  rw [roundWithAccuracy, roundWithAccuracy, hshift]

/-- The mantissa and the exponent of a finite double that is not zero: a mantissa of 53 binary
digits, or of fewer if the exponent is the least one. -/
structure Canonical (m : Nat) (e : Int) : Prop where
  pos : 0 < m
  lt : m < 2 ^ 53
  le : -1074 ≤ e
  ge : e ≤ 971
  normal : 2 ^ 52 ≤ m ∨ e = -1074

namespace Canonical

variable {m : Nat} {e : Int}

theorem log2_lt (h : Canonical m e) : m.log2 < 53 :=
  (Nat.log2_lt h.pos.ne').2 h.lt

theorem log2_or (h : Canonical m e) : m.log2 = 52 ∨ e = -1074 := by
  have hlt := h.log2_lt
  refine h.normal.imp_left fun hnormal => ?_
  have := (Nat.le_log2 h.pos.ne').2 hnormal
  omega

theorem targetExponent (h : Canonical m e) :
    Format.binary64.targetExponent (totalExponent m e) = e := by
  have hlt := h.log2_lt
  have hle := h.le
  have hnormal := h.log2_or
  rw [targetExponent_eq, totalExponent]
  omega

/-- What a double can hold is not rounded. -/
theorem round (h : Canonical m e) (s : Sign) :
    roundWithAccuracy Format.binary64 s m e .exact = .finite s m e h.pos := by
  have hshift : shiftToTargetExponent Format.binary64 m e .exact = (⟨m, false, false⟩, e) := by
    simp [shiftToTargetExponent, h.targetExponent, shiftToExponent,
      ExtendedMantissa.ofMantissaAndAccuracy, HShiftRight.hShiftRight, Nat.repeat]
  have hkept : ExtendedMantissa.roundedMantissa ⟨m, false, false⟩ = m := rfl
  simp only [roundWithAccuracy, hshift, hkept, h.pos.ne', dif_neg, not_false_eq_true]

/-- **A number that a double can hold is not rounded**, however it is split. -/
theorem round_scaled (h : Canonical m e) (s : Sign) (j : Nat) :
    roundWithAccuracy Format.binary64 s (m * 2 ^ j) (e - j) .exact = .finite s m e h.pos := by
  rw [Double.round_scaled s h.pos h.targetExponent.ge, h.round]

end Canonical

/-! ### Packing -/

/-- The sign that a double has. -/
abbrev signOf (b : BitVec 64) : Sign := Sign.ofBitVec (@unpackSign Format.binary64 b)

/-- The biased exponent that a double has. -/
abbrev exponentOf (b : BitVec 64) : Nat := (@unpackExponent Format.binary64 b).toNat

/-- The mantissa that a double has, without its implicit digit. -/
abbrev mantissaOf (b : BitVec 64) : Nat := (@unpackMantissa Format.binary64 b).toNat

theorem signOf_packComponents (s : Sign) (exponent : BitVec 11) (mantissa : BitVec 52) :
    signOf (packComponents Format.binary64 s exponent mantissa) = s := by
  rw [signOf, unpackSign_packComponents, Sign.ofBitVec_toBitVec]

/-- The implicit binary digit of a normal double. -/
theorem toNat_implicit_append (mantissa : BitVec 52) :
    (1#1 ++ mantissa).toNat = 2 ^ 52 + mantissa.toNat := by
  have hone : 1 % 2 ^ 1 * 2 ^ 52 = 2 ^ 52 := rfl
  rw [BitVec.toNat_append, BitVec.toNat_ofNat, Nat.shiftLeft_eq, hone, Nat.or_comm,
    Nat.or_two_pow_eq_add_of_lt mantissa.isLt, Nat.add_comm]

variable {b : BitVec 64}

theorem unpack_of_normal (hpos : exponentOf b ≠ 0) (hlt : exponentOf b ≠ 2047) :
    UnpackedFloat.unpack Format.binary64 b =
      .finite (signOf b) (2 ^ 52 + mantissaOf b) ((exponentOf b : Int) - 1075)
        (Nat.add_pos_left (by decide) _) := by
  have hfinite : @unpackExponent Format.binary64 b ≠ -1#11 := fun h =>
    hlt (congrArg BitVec.toNat h)
  have hnormal : @unpackExponent Format.binary64 b ≠ 0#11 := fun h =>
    hpos (congrArg BitVec.toNat h)
  simp only [UnpackedFloat.unpack]
  rw [if_neg hfinite, if_neg hnormal]
  simp only [toNat_implicit_append]
  rfl

theorem unpack_of_subnormal (hexponent : exponentOf b = 0) (hpos : 0 < mantissaOf b) :
    UnpackedFloat.unpack Format.binary64 b = .finite (signOf b) (mantissaOf b) (-1074) hpos := by
  have hzero : @unpackExponent Format.binary64 b = 0#11 := BitVec.eq_of_toNat_eq hexponent
  have hmantissa : @unpackMantissa Format.binary64 b ≠ 0#52 := fun h => by
    rw [mantissaOf, h] at hpos
    exact absurd hpos (by decide)
  simp only [UnpackedFloat.unpack]
  rw [if_neg (by rw [hzero]; decide), if_pos hzero, dif_neg hmantissa]
  simp only [hzero]
  rfl

theorem unpack_of_zero (hexponent : exponentOf b = 0) (hmantissa : mantissaOf b = 0) :
    UnpackedFloat.unpack Format.binary64 b = .zero (signOf b) := by
  have hzero : @unpackExponent Format.binary64 b = 0#11 := BitVec.eq_of_toNat_eq hexponent
  have hzero' : @unpackMantissa Format.binary64 b = 0#52 := BitVec.eq_of_toNat_eq hmantissa
  simp only [UnpackedFloat.unpack]
  rw [if_neg (by rw [hzero]; decide), if_pos hzero, dif_pos hzero']

theorem exponentOf_ne_of_isFinite
    (h : (UnpackedFloat.unpack Format.binary64 b).isFinite = true) : exponentOf b ≠ 2047 := by
  intro hexponent
  have hspecial : @unpackExponent Format.binary64 b = -1#11 := BitVec.eq_of_toNat_eq hexponent
  simp only [UnpackedFloat.unpack] at h
  rw [if_pos hspecial] at h
  split at h <;> simp [UnpackedFloat.isFinite] at h

theorem exponentOf_packComponents (s : Sign) (exponent : BitVec 11) (mantissa : BitVec 52) :
    exponentOf (packComponents Format.binary64 s exponent mantissa) = exponent.toNat := by
  rw [exponentOf, unpackExponent_packComponents]

theorem mantissaOf_packComponents (s : Sign) (exponent : BitVec 11) (mantissa : BitVec 52) :
    mantissaOf (packComponents Format.binary64 s exponent mantissa) = mantissa.toNat := by
  rw [mantissaOf, unpackMantissa_packComponents]

namespace Canonical

variable {m : Nat} {e : Int}

/-- The bits of a double. A mantissa of all 53 digits has its first digit left out. -/
theorem pack_eq (h : Canonical m e) (s : Sign) :
    UnpackedFloat.pack Format.binary64 (.finite s m e h.pos) =
      packComponents Format.binary64 s
        (if 2 ^ 52 ≤ m then BitVec.ofNat 11 (e + 1075).toNat else 0#11) (BitVec.ofNat 52 m) := by
  have hle := h.le
  have hge := h.ge
  have hlt := h.log2_lt
  have hexponent : e + Format.binary64.exponentBias +
      Format.binary64.mantissaBitsWithoutImplicit = e + 1075 := by
    show e + 1023 + 52 = e + 1075
    omega
  have hfits : ¬ 2 ^ Format.binary64.exponentBits ≤ (e + 1075).toNat + 1 := by
    show ¬ 2048 ≤ (e + 1075).toNat + 1
    omega
  have hlog : m.log2 + 1 = Format.binary64.mantissaBits ↔ 2 ^ 52 ≤ m := by
    show m.log2 + 1 = 53 ↔ _
    rw [← Nat.le_log2 h.pos.ne']
    omega
  simp only [UnpackedFloat.pack, hexponent, if_neg hfits, hlog]
  split <;> rfl

/-- **A double holds what it is made of.** -/
theorem unpack_pack (h : Canonical m e) (s : Sign) :
    (Float.Model.pack (.finite s m e h.pos)).unpack = .finite s m e h.pos := by
  have hle := h.le
  have hge := h.ge
  have hlt := h.lt
  show UnpackedFloat.unpack Format.binary64 (UnpackedFloat.pack Format.binary64 _) = _
  rw [h.pack_eq]
  generalize hb : packComponents Format.binary64 s _ _ = b
  have hsign : signOf b = s := hb ▸ signOf_packComponents s _ _
  by_cases hnormal : 2 ^ 52 ≤ m
  · have hexponent : exponentOf b = (e + 1075).toNat := by
      rw [← hb, exponentOf_packComponents, if_pos hnormal, BitVec.toNat_ofNat]
      omega
    have hmantissa : 2 ^ 52 + mantissaOf b = m := by
      rw [← hb, mantissaOf_packComponents, BitVec.toNat_ofNat, Nat.mod_eq_sub_mod hnormal,
        Nat.mod_eq_of_lt (by omega), Nat.add_sub_cancel' hnormal]
    have hcast : ((e + 1075).toNat : Int) - 1075 = e := by omega
    rw [unpack_of_normal (by omega) (by omega)]
    simp only [hsign, hexponent, hmantissa, hcast]
  · obtain rfl : e = -1074 := h.normal.resolve_left hnormal
    have hexponent : exponentOf b = 0 := by
      rw [← hb, exponentOf_packComponents, if_neg hnormal]
      rfl
    have hmantissa : mantissaOf b = m := by
      rw [← hb, mantissaOf_packComponents, BitVec.toNat_ofNat]
      exact Nat.mod_eq_of_lt (Nat.lt_of_not_le hnormal)
    rw [unpack_of_subnormal hexponent (hmantissa.symm ▸ h.pos)]
    simp only [hsign, hmantissa]

end Canonical

/-! ### Division -/

theorem log2_mul_le {a b : Nat} (ha : 0 < a) (hb : 0 < b) :
    (a * b).log2 ≤ a.log2 + b.log2 + 1 := by
  refine Nat.le_of_lt_succ ((Nat.log2_lt (Nat.mul_pos ha hb).ne').2 ?_)
  calc a * b < 2 ^ (a.log2 + 1) * 2 ^ (b.log2 + 1) :=
        Nat.mul_lt_mul'' Nat.lt_log2_self Nat.lt_log2_self
    _ = 2 ^ (a.log2 + b.log2 + 1 + 1) := by ring

/-- A number in a unit `2 ^ t` that is not larger than its own. -/
theorem value_scaled (m : Nat) {e t : Int} (h : t ≤ e) :
    ((m * 2 ^ (e - t).toNat : Nat) : ℚ) * 2 ^ t = m * 2 ^ e := by
  have hsplit : ((e - t).toNat : Int) + t = e := by omega
  rw [Nat.cast_mul, Nat.cast_pow, Nat.cast_ofNat, mul_assoc, ← zpow_natCast,
    ← zpow_add₀ (by norm_num), hsplit]

/-- Numbers that are equal are equally many of a unit. -/
theorem scaled_of_value_eq {m m' : Nat} {e e' t : Int} (h : (m : ℚ) * 2 ^ e = m' * 2 ^ e')
    (ht : t ≤ e) (ht' : t ≤ e') : m * 2 ^ (e - t).toNat = m' * 2 ^ (e' - t).toNat := by
  rw [← value_scaled m ht, ← value_scaled m' ht'] at h
  exact_mod_cast mul_right_cancel₀ (zpow_ne_zero _ (by norm_num)) h

/-- **A quotient that a double can hold is not rounded.** -/
theorem Canonical.div {M : Nat} {E : Int} (h : Canonical M E) (s s' : Sign) {m m' : Nat}
    {e e' : Int} (hm : 0 < m) (hm' : 0 < m')
    (hvalue : (m : ℚ) * 2 ^ e = m' * 2 ^ e' * (M * 2 ^ E)) :
    UnpackedFloat.div Format.binary64 (.finite s m e hm) (.finite s' m' e' hm') =
      .finite (s / s') M E h.pos := by
  have hquotient : (m : ℚ) * 2 ^ (e - e') = ((m' * M : Nat) : ℚ) * 2 ^ E := by
    rw [zpow_sub₀ (by norm_num), ← mul_div_assoc, hvalue, Nat.cast_mul]
    field_simp
  -- The quotient has no fewer digits than are worked out.
  have htarget : Format.binary64.targetExponent (totalExponent m e - totalExponent m' e') ≤ E := by
    have hequal := scaled_of_value_eq hquotient (Int.min_le_left _ _) (Int.min_le_right _ _)
    have hlog := congrArg Nat.log2 hequal
    rw [log2_scaled hm, log2_scaled (Nat.mul_pos hm' h.pos)] at hlog
    have hle := log2_mul_le hm' h.pos
    have hE := h.targetExponent
    rw [targetExponent_eq, totalExponent] at hE ⊢
    rw [totalExponent]
    omega
  generalize ht : min (e - e')
    (Format.binary64.targetExponent (totalExponent m e - totalExponent m' e')) = t
  have hleft : t ≤ e - e' := by omega
  have hright : t ≤ E := by omega
  have hscaled := scaled_of_value_eq hquotient hleft hright
  have hcore : divCore Format.binary64 m e m' e' =
      (M * 2 ^ (E - t).toNat, E - (E - t).toNat, .exact) := by
    simp only [divCore, ht, Nat.shiftLeft_eq, hscaled, Nat.mul_assoc, Nat.mul_div_cancel_left _ hm',
      Nat.mul_mod_right, accuracyOfFraction, if_true]
    congr 2
    omega
  simp only [UnpackedFloat.div, hcore, h.round_scaled]

/-! ### Naturals and powers of ten -/

/-- A natural of at most 53 binary digits, with all 53 of them. -/
theorem canonical_natural {n : Nat} (hn : 0 < n) (hn' : n < 2 ^ 53) :
    Canonical (n * 2 ^ (52 - n.log2)) ((n.log2 : Int) - 52) := by
  have hlog : n.log2 < 53 := (Nat.log2_lt hn.ne').2 hn'
  have hsum : n.log2 + (52 - n.log2) = 52 := by omega
  have hscaled : (n * 2 ^ (52 - n.log2)).log2 = 52 := by rw [log2_scaled hn, hsum]
  have hpos : 0 < n * 2 ^ (52 - n.log2) := Nat.mul_pos hn (Nat.two_pow_pos _)
  obtain ⟨hge, hlt⟩ := (Nat.log2_eq_iff hpos.ne').1 hscaled
  exact ⟨hpos, hlt, by omega, by omega, .inl hge⟩

theorem unpack_toFloat {n : Nat} (hn : 0 < n) (hn' : n < 2 ^ 53) :
    n.toUInt64.toFloat.toModel.unpack = .finite .positive (n * 2 ^ (52 - n.log2))
      ((n.log2 : Int) - 52) (canonical_natural hn hn').pos := by
  have hcanonical := canonical_natural hn hn'
  have hlog : n.log2 < 53 := (Nat.log2_lt hn.ne').2 hn'
  have hword : n.toUInt64.toNat = n :=
    UInt64.toNat_ofNat_of_lt' (Nat.lt_trans hn' (by decide))
  have htarget : Format.binary64.targetExponent (totalExponent n 0) = (n.log2 : Int) - 52 := by
    rw [targetExponent_eq, totalExponent]
    omega
  have hshift : (0 - ((n.log2 : Int) - 52)).toNat = 52 - n.log2 := by omega
  have hexponent : (0 : Int) - ((52 - n.log2 : Nat) : Int) = (n.log2 : Int) - 52 := by omega
  have hround : UnpackedFloat.round Format.binary64 .positive n 0 = .finite .positive
      (n * 2 ^ (52 - n.log2)) ((n.log2 : Int) - 52) hcanonical.pos := by
    simp only [UnpackedFloat.round, htarget, decreaseExponent, hshift, hexponent, Nat.shiftLeft_eq,
      hcanonical.round]
  have hcompare : compare (n : Int) 0 = .gt := Int.compare_eq_gt.2 (by omega)
  have hpack : n.toUInt64.toFloat.toModel = Float.Model.pack (.finite .positive
      (n * 2 ^ (52 - n.log2)) ((n.log2 : Int) - 52) hcanonical.pos) := by
    simp only [UInt64.toFloat, Float.Model.ofUInt64, UnpackedFloat.ofUInt64, UnpackedFloat.ofNat,
      UnpackedFloat.ofInt, UnpackedFloat.normalize, hword, hcompare, Int.toNat_natCast, hround]
  rw [hpack, hcanonical.unpack_pack]

/-- Whether a double holds a power of ten, in at least 53 binary digits. -/
def isPowerOfTen (k : Nat) : UnpackedFloat → Bool
  | .finite .positive p q _ =>
    2 ^ 52 ≤ p && -53 ≤ q && p * 2 ^ (q + 53).toNat == 10 ^ k * 2 ^ 53
  | _ => false

theorem unpack_powerOfTen {k : Nat} (hk : k < 23) :
    ∃ p q hp, (getElem Float.exactlyRepresentablePowersOfTen k hk).toModel.unpack =
        .finite .positive p q hp ∧ 2 ^ 52 ≤ p ∧ -53 ≤ q ∧
      p * 2 ^ (q + 53).toNat = 10 ^ k * 2 ^ 53 := by
  have hall : ∀ k : Fin 23, isPowerOfTen k
      (getElem Float.exactlyRepresentablePowersOfTen k.1 k.2).toModel.unpack = true := by
    decide +kernel
  have hpower := hall ⟨k, hk⟩
  unfold isPowerOfTen at hpower
  split at hpower
  · rename_i hunpack
    simp only [Bool.and_eq_true, decide_eq_true_eq, beq_iff_eq] at hpower
    exact ⟨_, _, _, hunpack, hpower.1.1, hpower.1.2, hpower.2⟩
  · simp at hpower

/-! ### Decimals -/

theorem ofScientific_of_natural {m : Nat} (hm : 0 < m) {k : Nat} (hk : k ≤ 2048) :
    UnpackedFloat.ofScientific Format.binary64 m k =
      roundWithAccuracy Format.binary64 .positive (m * 10 ^ k * 2 ^ 53) (-53) .exact := by
  have hmantissa : (m <<< Format.binary64.mantissaBits) * 10 ^ k = m * 10 ^ k * 2 ^ 53 := by
    show (m <<< 53) * 10 ^ k = _
    rw [Nat.shiftLeft_eq]
    ring
  have hlarge : ¬ (k : Int) > 2 ^ Format.binary64.exponentBits := by
    show ¬ (k : Int) > 2048
    omega
  have hsmall : ¬ (k : Int) < -((2 ^ Format.binary64.exponentBits : Int) + m.log2) := by
    show ¬ (k : Int) < -(2048 + (m.log2 : Int))
    omega
  rw [UnpackedFloat.ofScientific, dif_neg hm.ne', if_neg hlarge, if_neg hsmall,
    if_pos (Int.natCast_nonneg k)]
  simp only [UnpackedFloat.mul, Int.toNat_natCast, hmantissa]
  rfl

/-- A power of ten times a natural, both held by doubles, is rounded like the exact product. -/
theorem round_product {m p k : Nat} {q : Int} (hm : 0 < m) (hm' : m < 2 ^ 53) (hp : 2 ^ 52 ≤ p)
    (hq : -53 ≤ q) (hpower : p * 2 ^ (q + 53).toNat = 10 ^ k * 2 ^ 53) :
    roundWithAccuracy Format.binary64 .positive (m * 2 ^ (52 - m.log2) * p)
        ((m.log2 : Int) - 52 + q) .exact =
      roundWithAccuracy Format.binary64 .positive (m * 10 ^ k * 2 ^ 53) (-53) .exact := by
  have hlog : m.log2 < 53 := (Nat.log2_lt hm.ne').2 hm'
  have hp' : 0 < p := Nat.lt_of_lt_of_le (by decide) hp
  have hcanonical := canonical_natural hm hm'
  have hlong : 52 ≤ (m * 2 ^ (52 - m.log2) * p).log2 := by
    refine (Nat.le_log2 (Nat.mul_pos hcanonical.pos hp').ne').2 ?_
    exact Nat.le_trans hp (Nat.le_mul_of_pos_left p hcanonical.pos)
  have hlong' : 52 ≤ (m * 10 ^ k * 2 ^ 53).log2 := by
    rw [log2_scaled (by positivity)]
    exact Nat.le_add_left_of_le (by decide)
  -- Both are the same number of units of `2 ^ -106`.
  have hunits : m * 2 ^ (52 - m.log2) * p * 2 ^ (m.log2 + 54 + q).toNat =
      m * 10 ^ k * 2 ^ 53 * 2 ^ 53 := by
    have hsplit : (m.log2 + 54 + q).toNat = m.log2 + 1 + (q + 53).toNat := by omega
    have hdigits : 52 - m.log2 + (m.log2 + 1) = 53 := by omega
    calc m * 2 ^ (52 - m.log2) * p * 2 ^ (m.log2 + 54 + q).toNat
        = m * 2 ^ (52 - m.log2 + (m.log2 + 1)) * (p * 2 ^ (q + 53).toNat) := by
          rw [hsplit]
          ring
      _ = m * 10 ^ k * 2 ^ 53 * 2 ^ 53 := by
          rw [hdigits, hpower]
          ring
  have hexponent : (m.log2 : Int) - 52 + q - (m.log2 + 54 + q).toNat =
      -53 - ((53 : Nat) : Int) := by
    omega
  rw [← round_scaled .positive (Nat.mul_pos hcanonical.pos hp') (le_targetExponent hlong _)
    (m.log2 + 54 + q).toNat, hunits, hexponent]
  exact round_scaled .positive (by positivity) (le_targetExponent hlong' _) 53

/-- Small numbers are multiplied as doubles, which gives the same as rounding the product. -/
theorem ofScientific_false (m k : Nat) :
    Float.ofScientific m false k = .ofModel (Float.Model.ofScientific m k) := by
  rw [Float.ofScientific]
  split
  · rename_i hsmall
    have hk : k < 23 := Nat.lt_succ_of_le hsmall.2
    obtain ⟨p, q, hp, hpower, hlong, hq, hvalue⟩ := unpack_powerOfTen hk
    show Float.ofModel (Float.Model.pack (UnpackedFloat.mul Format.binary64
      m.toUInt64.toFloat.toModel.unpack
      (getElem Float.exactlyRepresentablePowersOfTen k hk).toModel.unpack)) =
      .ofModel (Float.Model.pack (UnpackedFloat.ofScientific Format.binary64 m k))
    rcases Nat.eq_zero_or_pos m with rfl | hm
    · have hzero : (Nat.toUInt64 0).toFloat.toModel.unpack = .zero .positive := rfl
      rw [hzero, hpower]
      rfl
    · rw [unpack_toFloat hm hsmall.1, hpower, ofScientific_of_natural hm (by omega),
        UnpackedFloat.mul, ← round_product hm hsmall.1 hlong hq hvalue]
      rfl
  · rfl

/-- A natural that a double can hold is not rounded. -/
theorem ofScientific_eq_of_natural {M : Nat} {E : Int} (h : Canonical M E) (hE : 0 ≤ E) :
    Float.ofScientific (M * 2 ^ E.toNat) false 0 =
      .ofModel (Float.Model.pack (.finite .positive M E h.pos)) := by
  have hmantissa : M * 2 ^ E.toNat * 10 ^ 0 * 2 ^ 53 = M * 2 ^ (E + 53).toNat := by
    rw [show (E + 53).toNat = E.toNat + 53 by omega]
    ring
  have hexponent : (-53 : Int) = E - (E + 53).toNat := by omega
  rw [ofScientific_false, Float.Model.ofScientific,
    ofScientific_of_natural (Nat.mul_pos h.pos (Nat.two_pow_pos _)) (by decide), hmantissa,
    hexponent, h.round_scaled]

/-- A quotient by a power of ten that a double can hold is not rounded. -/
theorem ofScientific_eq_of_quotient {M : Nat} {E : Int} (h : Canonical M E) {m k : Nat}
    (hm : 0 < m) (hk : 0 < k) (hk' : k ≤ 2048) (hvalue : (m : ℚ) = 10 ^ k * (M * 2 ^ E)) :
    Float.ofScientific m true k = .ofModel (Float.Model.pack (.finite .positive M E h.pos)) := by
  rw [Float.ofScientific]
  split
  · rename_i hsmall
    obtain ⟨p, q, hp, hpower, -, hq, hpvalue⟩ := unpack_powerOfTen (Nat.lt_succ_of_le hsmall.2)
    have hmvalue : ((m * 2 ^ (52 - m.log2) : Nat) : ℚ) * 2 ^ ((m.log2 : Int) - 52) = m := by
      have hlog : m.log2 < 53 := (Nat.log2_lt hm.ne').2 hsmall.1
      have hshift : (0 - ((m.log2 : Int) - 52)).toNat = 52 - m.log2 := by omega
      rw [← hshift, value_scaled m (by omega), zpow_zero, mul_one]
    have hpvalue' : (p : ℚ) * 2 ^ q = 10 ^ k := by
      have hshift : (q - -53).toNat = (q + 53).toNat := by omega
      rw [← value_scaled p hq, hshift, hpvalue, Nat.cast_mul, mul_assoc]
      norm_num
    have hdiv := h.div .positive .positive (canonical_natural hm hsmall.1).pos hp
      (by rw [hmvalue, hpvalue', hvalue])
    have hk' : k < 23 := Nat.lt_succ_of_le hsmall.2
    show Float.ofModel (Float.Model.pack (UnpackedFloat.div Format.binary64
      m.toUInt64.toFloat.toModel.unpack
      (getElem Float.exactlyRepresentablePowersOfTen k hk').toModel.unpack)) = _
    rw [unpack_toFloat hm hsmall.1, hpower, hdiv]
    rfl
  · have hlarge : ¬ (-(k : Int)) > 2 ^ Format.binary64.exponentBits := by
      show ¬ (-(k : Int)) > 2048
      omega
    have hsmall : ¬ (-(k : Int)) < -((2 ^ Format.binary64.exponentBits : Int) + m.log2) := by
      show ¬ (-(k : Int)) < -(2048 + (m.log2 : Int))
      omega
    have hten : 0 < 10 ^ k := Nat.pow_pos (by decide)
    have hvalue' : (m : ℚ) * 2 ^ (0 : Int) = (10 ^ k : Nat) * 2 ^ (0 : Int) * (M * 2 ^ E) := by
      simpa using hvalue
    have hdiv := h.div .positive .positive hm hten hvalue'
    simp only [if_true, Float.Model.ofScientific, Int.negOfNat_eq, Int.ofNat_eq_natCast]
    rw [UnpackedFloat.ofScientific, dif_neg hm.ne', if_neg hlarge, if_neg hsmall, if_neg (by omega)]
    simp only [neg_neg, Int.toNat_natCast, hdiv]
    rfl

end SharedSheet.Double
