import SharedSheet.Proofs.Decimal.Shortest

/-!
# Doubles written out read back

A double is written without an exponent: a positive power of ten is written as zeros, and a
negative one as places behind the point. The zeros make another decimal of it, with more digits
and the power of ten zero. The conversion takes a shortcut for powers of ten that are far too
large, so the two decimals are the same number only where the power is not, and for a finite double
it is not.

## Main definitions

* `assembled` — a numeral in its parts

## Main results

* `split_positional` — a decimal that is written out is one numeral
* `toFloat_ofNumeral_text`, `toFloat_ofNumeral_text_eq` — a finite double reads back from its text
* `text_of_not_isFinite` — how the other doubles are written
-/

namespace SharedSheet.Decimal

open Double Float.Model Float.Model.UnpackedFloat

/-! ### Zeros instead of a power of ten -/

theorem isFinite_of_beq {x y : Float} (h : (y == x) = true) (hx : x.isFinite = true) :
    y.isFinite = true := by
  have hx' : x.toModel.unpack.isFinite = true := hx
  show y.toModel.unpack.isFinite = true
  obtain ⟨-, -, heq | ⟨heq, -⟩ | ⟨heq, -⟩⟩ := beq_eq_true_iff.1 h
  · rwa [heq]
  · rw [heq]; rfl
  · rw [heq]; rfl

/-- A number that is too large for a double is read as infinite. -/
theorem isFinite_toFloat_of_large {d : Decimal} (hd : 0 < d.digits) (hk : 2048 < d.exponent) :
    d.toFloat.isFinite = false := by
  have hlarge : d.exponent > 2 ^ Format.binary64.exponentBits := by
    show d.exponent > 2048
    exact hk
  have hexponent : ((d.exponent.natAbs : Nat) : Int) = d.exponent := by omega
  have hinfinite : Float.ofScientific d.digits (decide (d.exponent < 0)) d.exponent.natAbs =
      .ofModel (Float.Model.pack (.infinity .positive)) := by
    rw [decide_eq_false (by omega), ofScientific_false, hexponent, Float.Model.ofScientific,
      UnpackedFloat.ofScientific, dif_neg hd.ne', if_pos hlarge]
  rw [toFloat, hinfinite]
  cases d.negative <;> rfl

/-- Zeros may be written instead of a power of ten. -/
theorem toFloat_padded {negative : Bool} {digits k : Nat} (h : digits = 0 ∨ k ≤ 2048) :
    toFloat ⟨negative, digits * 10 ^ k, 0⟩ = toFloat ⟨negative, digits, k⟩ := by
  have hpadded : Float.ofScientific (digits * 10 ^ k) false 0 =
      Float.ofScientific digits false k := by
    rw [ofScientific_false, ofScientific_false, Float.Model.ofScientific, Float.Model.ofScientific]
    rcases Nat.eq_zero_or_pos digits with rfl | hdigits
    · rw [Nat.zero_mul, UnpackedFloat.ofScientific, UnpackedFloat.ofScientific, dif_pos rfl,
        dif_pos rfl]
    · rw [ofScientific_of_natural (Nat.mul_pos hdigits (Nat.pow_pos (by decide))) (Nat.zero_le _),
        ofScientific_of_natural hdigits (h.resolve_left hdigits.ne'), pow_zero, Nat.mul_one]
  show (if negative then -(Float.ofScientific (digits * 10 ^ k) false 0)
    else Float.ofScientific (digits * 10 ^ k) false 0) = _
  have hsign : decide ((k : Int) < 0) = false := decide_eq_false (by omega)
  simp only [hpadded, toFloat, hsign, Int.natAbs_natCast]

/-! ### Numerals -/

/-- A numeral with its sign, its digits before the point and those behind it. -/
def assembled (negative : Bool) (whole fraction : List Char) : List Char :=
  (if negative then ['-'] else []) ++ (whole ++ if fraction = [] then [] else '.' :: fraction)

variable {negative : Bool} {whole fraction : List Char}

section

variable (hwhole : ∀ c ∈ whole, c.isDigit = true) (hfraction : ∀ c ∈ fraction, c.isDigit = true)
include hwhole

theorem head?_assembled (hne : whole ≠ []) :
    ((assembled negative whole fraction).head? == some '-') = negative := by
  cases negative with
  | true => rfl
  | false =>
    obtain ⟨c, cs, rfl⟩ := List.exists_cons_of_ne_nil hne
    refine beq_eq_false_iff_ne.2 fun h => ?_
    obtain rfl : c = '-' := Option.some.inj h
    exact absurd (hwhole _ List.mem_cons_self) (by decide)

include hfraction

theorem filter_isDigit_assembled :
    (assembled negative whole fraction).filter Char.isDigit = whole ++ fraction := by
  have hsign : (if negative then ['-'] else []).filter Char.isDigit = [] := by
    cases negative <;> rfl
  have htail : (if fraction = [] then [] else '.' :: fraction).filter Char.isDigit = fraction := by
    split
    · rename_i hnil
      rw [hnil, List.filter_nil]
    · exact (List.filter_cons_of_neg (by decide)).trans (List.filter_eq_self.2 hfraction)
  rw [assembled, List.filter_append, List.filter_append, hsign, htail,
    List.filter_eq_self.2 hwhole, List.nil_append]

omit hfraction in
theorem dropWhile_assembled :
    ((assembled negative whole fraction).dropWhile (· != '.')).tail = fraction := by
  have hpoint : ∀ c ∈ (if negative then ['-'] else []) ++ whole, (c != '.') = true := by
    intro c hc
    rw [bne_iff_ne]
    rintro rfl
    rcases List.mem_append.1 hc with hc | hc
    · cases negative <;> simp at hc
    · exact absurd (hwhole _ hc) (by decide)
  rw [assembled, ← List.append_assoc, List.dropWhile_append_of_pos hpoint]
  split
  · rename_i hnil
    rw [hnil]
    rfl
  · rfl

theorem ofNumeral_assembled (hne : whole ≠ []) : ofNumeral (assembled negative whole fraction) =
    ⟨negative, Nat.ofDigitChars 10 (whole ++ fraction) 0, -(fraction.length : Int)⟩ := by
  rw [ofNumeral, head?_assembled hwhole hne, filter_isDigit_assembled hwhole hfraction,
    dropWhile_assembled hwhole]

theorem splitUnsigned_assembled (hne : whole ≠ []) :
    splitUnsigned (assembled false whole fraction) = (assembled false whole fraction, []) := by
  obtain ⟨d, whole, rfl⟩ := List.exists_cons_of_ne_nil hne
  by_cases hnil : fraction = []
  · simp [assembled, splitUnsigned, hnil, List.takeWhile_eq_self_iff.2 hwhole,
      List.dropWhile_eq_nil_iff.2 hwhole]
  · obtain ⟨d', fraction, rfl⟩ := List.exists_cons_of_ne_nil hnil
    have htake := List.takeWhile_eq_self_iff.2 hfraction
    have hdrop := List.dropWhile_eq_nil_iff.2 hfraction
    have hpoint : '.'.isDigit = false := by decide
    simp only [assembled, if_neg hnil, Bool.false_eq_true, if_false, List.nil_append,
      splitUnsigned, List.takeWhile_append_of_pos hwhole, List.dropWhile_append_of_pos hwhole,
      List.takeWhile_cons, List.dropWhile_cons, hpoint, List.append_nil]
    simp only [← List.takeWhile_cons, ← List.dropWhile_cons, htake, hdrop]

/-- Nothing of a numeral is left over. -/
theorem split_assembled (hne : whole ≠ []) :
    split true (assembled negative whole fraction) = (assembled negative whole fraction, []) := by
  have hunsigned := splitUnsigned_assembled hwhole hfraction hne
  obtain ⟨d, whole, rfl⟩ := List.exists_cons_of_ne_nil hne
  cases negative with
  | true =>
    show split true ('-' :: assembled false (d :: whole) fraction) = _
    simp only [split, Bool.true_and, show isSign '-' = true from rfl, if_true, hunsigned]
    rfl
  | false =>
    have hsign : isSign d = false := by
      have hd := hwhole d List.mem_cons_self
      simp only [isSign, Bool.or_eq_false_iff, beq_eq_false_iff_ne]
      constructor <;> rintro rfl <;> exact absurd hd (by decide)
    show split true (d :: _) = _
    simp only [split, hsign, Bool.and_false, Bool.false_eq_true, if_false]
    exact hunsigned

end

/-- The parts of a decimal that is written out. -/
theorem positional_eq (d : Decimal) : ∃ whole fraction,
    positional d = assembled d.negative whole fraction ∧ whole ≠ [] ∧
      (∀ c ∈ whole, c.isDigit = true) ∧ (∀ c ∈ fraction, c.isDigit = true) ∧
      Nat.ofDigitChars 10 (whole ++ fraction) 0 = d.digits * 10 ^ d.exponent.toNat ∧
      fraction.length = (-d.exponent).toNat := by
  have hdigits : ∀ c ∈ Nat.toDigits 10 d.digits, c.isDigit = true := fun _ =>
    Nat.isDigit_of_mem_toDigits (by decide) (by decide)
  have hzeros : ∀ {n : Nat}, ∀ c ∈ List.replicate n '0', c.isDigit = true := fun {n} c hc => by
    rw [List.eq_of_mem_replicate hc]
    rfl
  by_cases hplaces : (-d.exponent).toNat = 0
  · refine ⟨Nat.toDigits 10 d.digits ++
      List.replicate (if d.digits = 0 then 0 else d.exponent.toNat) '0', [], ?_, ?_, ?_, ?_, ?_,
      ?_⟩
    · simp only [positional, hplaces, if_true, assembled]
      cases d.negative <;> simp
    · simp [Nat.toDigits_ne_nil]
    · exact fun c hc => (List.mem_append.1 hc).elim (hdigits c) (hzeros c)
    · simp
    · rw [List.append_nil, Nat.ofDigitChars_append, Nat.ofDigitChars_ten_toDigits,
        Nat.ofDigitChars_replicate_zero, Nat.mul_comm]
      by_cases hzero : d.digits = 0
      · simp [hzero]
      · rw [if_neg hzero]
    · rw [hplaces, List.length_nil]
  · generalize hpadded :
      List.replicate ((-d.exponent).toNat + 1 - (Nat.toDigits 10 d.digits).length) '0' ++
        Nat.toDigits 10 d.digits = padded
    have hlength : (-d.exponent).toNat < padded.length := by
      rw [← hpadded, List.length_append, List.length_replicate]
      omega
    have hall : ∀ c ∈ padded, c.isDigit = true := fun c hc => by
      rw [← hpadded] at hc
      exact (List.mem_append.1 hc).elim (hzeros c) (hdigits c)
    refine ⟨padded.take (padded.length - (-d.exponent).toNat),
      padded.drop (padded.length - (-d.exponent).toNat), ?_, ?_,
      fun c hc => hall c (List.mem_of_mem_take hc), fun c hc => hall c (List.mem_of_mem_drop hc),
      ?_, ?_⟩
    · have hdrop : padded.drop (padded.length - (-d.exponent).toNat) ≠ [] := by
        rw [← List.length_pos_iff, List.length_drop]
        omega
      simp only [positional, hplaces, if_false, hpadded, assembled, hdrop]
      cases d.negative <;> simp
    · rw [← List.length_pos_iff, List.length_take]
      omega
    · have hexponent : d.exponent.toNat = 0 := by omega
      rw [List.take_append_drop, ← hpadded, Nat.ofDigitChars_append,
        Nat.ofDigitChars_replicate_zero, Nat.mul_zero, Nat.ofDigitChars_ten_toDigits, hexponent,
        pow_zero, Nat.mul_one]
    · rw [List.length_drop]
      omega

/-- A decimal that is written out is one numeral. -/
theorem split_positional (d : Decimal) : split true (positional d) = (positional d, []) := by
  obtain ⟨whole, fraction, hd, hne, hwhole, hfraction, -, -⟩ := positional_eq d
  rw [hd, split_assembled hwhole hfraction hne]

/-- What a numeral starts with. -/
theorem exists_cons_positional (d : Decimal) :
    ∃ c cs, positional d = c :: cs ∧ (c.isDigit = true ∨ c = '-') := by
  obtain ⟨whole, fraction, hd, hne, hwhole, -, -, -⟩ := positional_eq d
  obtain ⟨c, whole, rfl⟩ := List.exists_cons_of_ne_nil hne
  cases hnegative : d.negative with
  | true => exact ⟨'-', _, by rw [hd, hnegative]; rfl, .inr rfl⟩
  | false => exact ⟨c, _, by rw [hd, hnegative]; rfl, .inl (hwhole c List.mem_cons_self)⟩

/-- What is written out of a decimal: a positive power of ten is zeros. -/
theorem ofNumeral_positional (d : Decimal) : ofNumeral (positional d) =
    ⟨d.negative, d.digits * 10 ^ d.exponent.toNat, min d.exponent 0⟩ := by
  obtain ⟨whole, fraction, hd, hne, hwhole, hfraction, hdigits, hlength⟩ := positional_eq d
  rw [hd, ofNumeral_assembled hwhole hfraction hne, hdigits, hlength]
  congr 1
  omega

/-- The shortest decimal of a finite double, written out, reads back. -/
theorem toFloat_ofNumeral_shortest {x : Float} (h : x.isFinite = true) :
    ((ofNumeral (positional (shortest x))).toFloat == x) = true := by
  have hshortest := toFloat_shortest h
  rw [ofNumeral_positional]
  generalize shortest x = d at hshortest
  obtain ⟨negative, digits, exponent⟩ := d
  rcases le_or_gt exponent 0 with hle | hlt
  · rw [min_eq_left hle, Int.toNat_of_nonpos hle, pow_zero, Nat.mul_one]
    exact hshortest
  · obtain ⟨k, rfl⟩ : ∃ k : Nat, exponent = k := ⟨exponent.toNat, by omega⟩
    have hsmall : digits = 0 ∨ k ≤ 2048 := by
      by_contra! hlarge
      have hinfinite := isFinite_toFloat_of_large (d := ⟨negative, digits, k⟩)
        (Nat.pos_of_ne_zero hlarge.1) (by simpa using hlarge.2)
      rw [isFinite_of_beq hshortest h] at hinfinite
      exact Bool.noConfusion hinfinite
    rw [min_eq_right hlt.le, Int.toNat_natCast, toFloat_padded hsmall]
    exact hshortest

/-- How a finite double is written. -/
theorem toList_text {x : Float} (h : x.isFinite = true) :
    (text x).toList = positional (shortest x) := by
  have hfinite : x.toModel.unpack.isFinite = true := h
  have hnan : x.isNaN = false := by
    show x.toModel.unpack.isNaN = false
    cases hx : x.toModel.unpack <;> simp_all [UnpackedFloat.isFinite, UnpackedFloat.isNaN]
  have hinf : x.isInf = false := by
    show x.toModel.unpack.isInf = false
    cases hx : x.toModel.unpack <;> simp_all [UnpackedFloat.isFinite, UnpackedFloat.isInf]
  simp only [text, hnan, hinf, Bool.false_eq_true, if_false, String.toList_ofList]

/-- **A finite double reads back from its text.** -/
theorem toFloat_ofNumeral_text {x : Float} (h : x.isFinite = true) :
    ((ofNumeral (text x).toList).toFloat == x) = true := by
  rw [toList_text h]
  exact toFloat_ofNumeral_shortest h

/-- Only the two zeros are equal as numbers without being the same double. -/
theorem eq_of_beq_of_ne_zero {x y : Float} (h : (y == x) = true) (hx : (x == 0) = false) :
    y = x := by
  obtain ⟨-, -, rfl | ⟨-, rfl⟩ | ⟨-, rfl⟩⟩ := Float.beq_iff_ne_nan_and_eq.1 h
  · rfl
  · exact absurd hx (by decide)
  · exact absurd hx (by decide)

/-- **A finite double is the one that its text is read as**, a zero with its sign. -/
theorem toFloat_ofNumeral_text_eq {x : Float} (h : x.isFinite = true) :
    (ofNumeral (text x).toList).toFloat = x := by
  cases hzero : x == 0 with
  | false => exact eq_of_beq_of_ne_zero (toFloat_ofNumeral_text h) hzero
  | true =>
    obtain ⟨-, -, rfl | ⟨rfl, -⟩ | ⟨rfl, -⟩⟩ := Float.beq_iff_ne_nan_and_eq.1 hzero
    · rfl
    · rfl
    · rfl

/-- How the other doubles are written. -/
theorem text_of_not_isFinite {x : Float} (h : x.isFinite = false) :
    text x = "NaN" ∨ text x = "-inf" ∨ text x = "inf" := by
  have hinfinite : x.toModel.unpack.isFinite = false := h
  unfold text
  split
  · exact .inl rfl
  · rename_i hnan
    have hinf : x.isInf = true := by
      show x.toModel.unpack.isInf = true
      have hnan' : x.toModel.unpack.isNaN ≠ true := hnan
      cases hx : x.toModel.unpack <;>
        simp_all [UnpackedFloat.isFinite, UnpackedFloat.isNaN, UnpackedFloat.isInf]
    rw [if_pos hinf]
    split
    · exact .inr (.inl rfl)
    · exact .inr (.inr rfl)

/-- What the text of a double starts with. -/
theorem exists_cons_text (x : Float) :
    ∃ c cs, (text x).toList = c :: cs ∧ (c.isDigit = true ∨ c ∈ ['-', 'N', 'i']) := by
  cases h : x.isFinite with
  | true =>
    obtain ⟨c, cs, hcs, hc⟩ := exists_cons_positional (shortest x)
    exact ⟨c, cs, (toList_text h).trans hcs, hc.imp id fun hc => by simp [hc]⟩
  | false =>
    rcases text_of_not_isFinite h with h | h | h
    · exact ⟨_, _, by rw [h]; rfl, .inr (by decide)⟩
    · exact ⟨_, _, by rw [h]; rfl, .inr (by decide)⟩
    · exact ⟨_, _, by rw [h]; rfl, .inr (by decide)⟩

end SharedSheet.Decimal
