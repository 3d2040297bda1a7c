import Mathlib.Data.List.Induction
import SharedSheet.Reference.Basic

/-!
# The spelling of references

Reading is more lenient than writing: the dollar sign may be missing and the row may have leading
zeros. So of a reference as a whole only one direction is a law, that the canonical spelling reads
back. It holds for the references that name a cell. Column and row zero have a spelling too, since
`Reference` is a plain pair of words, but no text reads as them; `Reference.IsCell` is what reading
guarantees and what writing needs.

The parts of a reference have laws in both directions. Letters are the only spelling of their
number, and digits are one up to the zeros in front of them.

## Main definitions

* `Reference.IsCell` — neither the column nor the row is zero

## Main results

* `Column.value_letters`, `Column.letters_value` — bijective base 26 reads back, and writes back
* `Decimal.toDigits_ofDigitChars` — digits write back without the zeros in front
* `Reference.ofChars?_toChars` — the canonical spelling reads back
* `Reference.isCell_of_ofChars?` — what is read names a cell
-/

namespace SharedSheet

/-! ### Column letters -/

namespace Column

theorem isLetter_letter {n : Nat} (h : n < 26) : isLetter (letter n) = true := by
  revert n
  decide

theorem letterValue_letter {n : Nat} (h : n < 26) : letterValue (letter n) = n + 1 := by
  revert n
  decide

theorem toNat_of_isLetter {c : Char} (h : isLetter c = true) : 65 ≤ c.toNat ∧ c.toNat ≤ 90 := by
  simp only [isLetter, Bool.and_eq_true, decide_eq_true_eq] at h
  exact ⟨UInt32.le_iff_toNat_le.1 h.1, UInt32.le_iff_toNat_le.1 h.2⟩

theorem letterValue_pos {c : Char} (h : isLetter c = true) : 0 < letterValue c :=
  Nat.sub_pos_of_lt (toNat_of_isLetter h).1

/-- A letter is the letter of its number. -/
theorem letter_letterValue {c : Char} (h : isLetter c = true) : letter (letterValue c - 1) = c := by
  have hle := toNat_of_isLetter h
  rw [letter, letterValue, show 65 + (c.toNat - 64 - 1) = c.toNat by omega, Char.ofNat_toNat]

@[simp] theorem letters_zero : letters 0 = [] := by
  rw [letters]
  rfl

theorem letters_of_ne_zero {n : Nat} (h : n ≠ 0) :
    letters n = letters ((n - 1) / 26) ++ [letter ((n - 1) % 26)] := by
  rw [letters]
  simp [h]

theorem letters_ne_nil {n : Nat} (h : n ≠ 0) : letters n ≠ [] := by
  simp [letters_of_ne_zero h]

theorem isLetter_of_mem_letters {n : Nat} {c : Char} (h : c ∈ letters n) :
    isLetter c = true := by
  induction n using Nat.strongRecOn with
  | ind n ih =>
    by_cases hn : n = 0
    · simp [hn] at h
    · rw [letters_of_ne_zero hn, List.mem_append, List.mem_singleton] at h
      rcases h with h | rfl
      · exact ih _ (by omega) h
      · exact isLetter_letter (Nat.mod_lt _ (by omega))

theorem value_concat (cs : List Char) (c : Char) :
    value (cs ++ [c]) = value cs * 26 + letterValue c := by
  simp [value]

/-- The letters of a number spell it. -/
theorem value_letters (n : Nat) : value (letters n) = n := by
  induction n using Nat.strongRecOn with
  | ind n ih =>
    by_cases hn : n = 0
    · simp [hn, value]
    · rw [letters_of_ne_zero hn, value_concat, ih _ (by omega),
        letterValue_letter (Nat.mod_lt _ (by omega))]
      omega

/-- **Letters are the spelling of the number that they spell.** -/
theorem letters_value {cs : List Char} (h : ∀ c ∈ cs, isLetter c = true) :
    letters (value cs) = cs := by
  induction cs using List.reverseRecOn with
  | nil => exact letters_zero
  | append_singleton cs c ih =>
    obtain ⟨hcs, hc⟩ := List.forall_mem_append.1 h
    have hc := hc c List.mem_cons_self
    have hle := toNat_of_isLetter hc
    have hvalue : letterValue c = c.toNat - 64 := rfl
    rw [value_concat, letters_of_ne_zero (by omega),
      show (value cs * 26 + letterValue c - 1) / 26 = value cs by omega,
      show (value cs * 26 + letterValue c - 1) % 26 = letterValue c - 1 by omega, ih hcs,
      letter_letterValue hc]

/-- There is no spelling of zero. -/
theorem value_pos {cs : List Char} (hne : cs ≠ []) (h : ∀ c ∈ cs, isLetter c = true) :
    0 < value cs := by
  obtain ⟨init, last, rfl⟩ := List.eq_nil_or_concat cs |>.resolve_left hne
  have := letterValue_pos (h last (by simp))
  rw [List.concat_eq_append, value_concat]
  omega

/-- One more letter. -/
theorem push?_eq_some_iff {m n : UInt32} {c : Char} : push? m c = some n ↔
    isLetter c = true ∧ m.toNat * 26 + letterValue c = n.toNat := by
  simp only [push?, Option.ite_none_right_eq_some, Bool.and_eq_true, decide_eq_true_eq,
    Option.some.injEq, and_assoc]
  refine and_congr_right fun _ => ⟨?_, fun h => ?_⟩
  · rintro ⟨hlt, rfl⟩
    exact (UInt32.toNat_ofNat_of_lt' hlt).symm
  · exact ⟨h ▸ n.toNat_lt, by rw [h, UInt32.ofNat_toNat]⟩

/-- Further letters do not make a number less. -/
theorem le_foldl_letterValue (cs : List Char) (m : Nat) :
    m ≤ cs.foldl (fun n c => n * 26 + letterValue c) m := by
  induction cs generalizing m with
  | nil => exact Nat.le_refl m
  | cons c cs ih => exact Nat.le_trans (by omega) (ih (m * 26 + letterValue c))

/-- Letters behind a number. If all of them together fit 32 bits, so do the first ones. -/
theorem foldlM_push?_eq_some_iff {cs : List Char} {m n : UInt32} :
    cs.foldlM push? m = some n ↔ (∀ c ∈ cs, isLetter c = true) ∧
      cs.foldl (fun n c => n * 26 + letterValue c) m.toNat = n.toNat := by
  induction cs generalizing m with
  | nil => simp [UInt32.toNat_inj]
  | cons c cs ih =>
    rw [List.foldlM_cons, Option.bind_eq_bind, Option.bind_eq_some_iff, List.foldl_cons,
      List.forall_mem_cons]
    simp only [push?_eq_some_iff, ih]
    constructor
    · rintro ⟨m', ⟨hc, hm'⟩, hcs, hvalue⟩
      exact ⟨⟨hc, hcs⟩, by rw [hm', hvalue]⟩
    · rintro ⟨⟨hc, hcs⟩, hvalue⟩
      have hlt : m.toNat * 26 + letterValue c < UInt32.size :=
        Nat.lt_of_le_of_lt (hvalue ▸ le_foldl_letterValue cs _) n.toNat_lt
      have hm' := UInt32.toNat_ofNat_of_lt' hlt
      exact ⟨UInt32.ofNat (m.toNat * 26 + letterValue c), ⟨hc, hm'.symm⟩, hcs,
        by rw [hm', hvalue]⟩

/-- What letters are read as. -/
theorem ofLetters?_eq_some_iff {cs : List Char} {n : UInt32} : ofLetters? cs = some n ↔
    cs ≠ [] ∧ (∀ c ∈ cs, isLetter c = true) ∧ value cs = n.toNat := by
  rw [ofLetters?, Option.ite_none_left_eq_some, List.isEmpty_iff, foldlM_push?_eq_some_iff]
  rfl

theorem ofLetters?_letters {n : UInt32} (h : n ≠ 0) : ofLetters? (letters n.toNat) = some n :=
  ofLetters?_eq_some_iff.2 ⟨letters_ne_nil fun h0 => h (UInt32.toNat_inj.1 h0),
    fun _ => isLetter_of_mem_letters, value_letters _⟩

theorem ne_zero_of_ofLetters? {cs : List Char} {n : UInt32} (h : ofLetters? cs = some n) :
    n ≠ 0 := by
  obtain ⟨hne, hall, hvalue⟩ := ofLetters?_eq_some_iff.1 h
  have hpos := value_pos hne hall
  rintro rfl
  exact Nat.ne_of_gt hpos hvalue

end Column

/-! ### Digits -/

namespace Decimal

/-- What digits are read as. -/
theorem word?_eq_some_iff {cs : List Char} {n : UInt32} : word? cs = some n ↔
    cs ≠ [] ∧ (∀ c ∈ cs, c.isDigit = true) ∧ Nat.ofDigitChars 10 cs 0 = n.toNat := by
  simp only [word?, natural?, Bool.and_eq_true, Bool.not_eq_true', List.isEmpty_eq_false_iff,
    List.all_eq_true]
  by_cases h : cs ≠ [] ∧ ∀ c ∈ cs, c.isDigit = true
  · simp only [if_pos h, Option.ite_none_right_eq_some, Option.some.injEq]
    rw [← and_assoc, and_iff_right h]
    constructor
    · rintro ⟨hlt, rfl⟩
      exact (UInt32.toNat_ofNat_of_lt' hlt).symm
    · intro h
      exact ⟨h ▸ n.toNat_lt, by rw [h, UInt32.ofNat_toNat]⟩
  · simp only [if_neg h, reduceCtorEq, false_iff]
    exact fun hall => h ⟨hall.1, hall.2.1⟩

theorem word?_toDigits (n : UInt32) : word? (Nat.toDigits 10 n.toNat) = some n :=
  word?_eq_some_iff.2 ⟨Nat.toDigits_ne_nil,
    fun _ => Nat.isDigit_of_mem_toDigits (by decide) (by decide), Nat.ofDigitChars_ten_toDigits⟩

theorem digitChar_toNat_sub {c : Char} (h : c.isDigit = true) :
    c.toNat - 48 < 10 ∧ Nat.digitChar (c.toNat - 48) = c := by
  simp only [Char.isDigit, Bool.and_eq_true, decide_eq_true_eq] at h
  have hge : 48 ≤ c.toNat := UInt32.le_iff_toNat_le.1 h.1
  have hle : c.toNat ≤ 57 := UInt32.le_iff_toNat_le.1 h.2
  refine ⟨by omega, Char.toNat_inj.1 ?_⟩
  rw [Nat.toNat_digitChar_of_lt_ten (by omega)]
  omega

/-- Digits behind a number that is not zero go on its spelling. -/
theorem toDigits_ofDigitChars_of_pos {ds : List Char} (h : ∀ c ∈ ds, c.isDigit = true) {n : Nat}
    (hn : 0 < n) : Nat.toDigits 10 (Nat.ofDigitChars 10 ds n) = Nat.toDigits 10 n ++ ds := by
  induction ds generalizing n with
  | nil => simp
  | cons d ds ih =>
    obtain ⟨hd, hds⟩ := List.forall_mem_cons.1 h
    obtain ⟨hlt, hchar⟩ := digitChar_toNat_sub hd
    calc Nat.toDigits 10 (Nat.ofDigitChars 10 (d :: ds) n)
        = Nat.toDigits 10 (10 * n + (d.toNat - 48)) ++ ds := by
          rw [Nat.ofDigitChars_cons, show '0'.toNat = 48 from rfl, ih hds (by omega)]
      _ = Nat.toDigits 10 n ++ [d] ++ ds := by
          rw [← Nat.toDigits_append_toDigits (by decide) hn hlt, Nat.toDigits_of_lt_base hlt, hchar]
      _ = Nat.toDigits 10 n ++ d :: ds := by simp

/-- **Digits without the zeros in front are the spelling of the number that they write**, unless
that is zero. -/
theorem toDigits_ofDigitChars {ds : List Char} (h : ∀ c ∈ ds, c.isDigit = true)
    (hpos : 0 < Nat.ofDigitChars 10 ds 0) :
    Nat.toDigits 10 (Nat.ofDigitChars 10 ds 0) = ds.dropWhile (· == '0') := by
  induction ds with
  | nil => exact absurd hpos (Nat.lt_irrefl 0)
  | cons d ds ih =>
    obtain ⟨hd, hds⟩ := List.forall_mem_cons.1 h
    by_cases hzero : d = '0'
    · subst hzero
      exact ih hds hpos
    · obtain ⟨hlt, hchar⟩ := digitChar_toNat_sub hd
      have hn : 0 < d.toNat - 48 := by
        refine Nat.pos_of_ne_zero fun h0 => hzero ?_
        rw [← hchar, h0]
        rfl
      rw [List.dropWhile_cons_of_neg (by simpa using hzero), Nat.ofDigitChars_cons, Nat.mul_zero,
        Nat.zero_add, show '0'.toNat = 48 from rfl, toDigits_ofDigitChars_of_pos hds hn,
        Nat.toDigits_of_lt_base hlt, hchar, List.singleton_append]

end Decimal

/-- A digit is no letter. -/
theorem Column.isLetter_of_isDigit {c : Char} (h : c.isDigit = true) :
    Column.isLetter c = false := by
  simp only [Char.isDigit, Bool.and_eq_true, decide_eq_true_eq] at h
  have := UInt32.le_iff_toNat_le.1 h.2
  simp only [Column.isLetter, Bool.and_eq_false_iff, decide_eq_false_iff_not]
  refine .inl fun hA => ?_
  have := UInt32.le_iff_toNat_le.1 hA
  simp at *
  omega

/-! ### References -/

namespace Reference

/-- A reference that names a cell. -/
def IsCell (r : Reference) : Prop := r.column ≠ 0 ∧ r.row ≠ 0

instance (r : Reference) : Decidable r.IsCell := inferInstanceAs (Decidable (_ ∧ _))

theorem eq_iff_toNat {r r' : Reference} :
    r = r' ↔ r.column.toNat = r'.column.toNat ∧ r.row.toNat = r'.row.toNat := by
  obtain ⟨column, row⟩ := r
  obtain ⟨column', row'⟩ := r'
  rw [Reference.mk.injEq, UInt32.toNat_inj, UInt32.toNat_inj]

theorem isCell_iff {r : Reference} : r.IsCell ↔ 1 ≤ r.column ∧ 1 ≤ r.row := by
  have hpos : ∀ n : UInt32, n ≠ 0 ↔ 1 ≤ n := fun n => by
    rw [UInt32.le_iff_toNat_le, ne_eq, ← UInt32.toNat_inj]
    exact Nat.pos_iff_ne_zero.symm
  exact and_congr (hpos r.column) (hpos r.row)

/-- Letters end where digits start. -/
theorem span_of_letters_digits {letters digits : List Char}
    (hletters : ∀ c ∈ letters, Column.isLetter c = true) (hne : digits ≠ [])
    (hdigits : ∀ c ∈ digits, c.isDigit = true) :
    (letters ++ digits).takeWhile Column.isLetter = letters ∧
      (letters ++ digits).dropWhile Column.isLetter = digits := by
  obtain ⟨d, ds, rfl⟩ := List.exists_cons_of_ne_nil hne
  have hd : Column.isLetter d = false := Column.isLetter_of_isDigit (hdigits d List.mem_cons_self)
  rw [List.takeWhile_append_of_pos hletters, List.dropWhile_append_of_pos hletters]
  simp [hd]

/-- The parts of the canonical spelling. -/
theorem span_letters_digits (column row : Nat) :
    (Column.letters column ++ Nat.toDigits 10 row).takeWhile Column.isLetter =
        Column.letters column ∧
      (Column.letters column ++ Nat.toDigits 10 row).dropWhile Column.isLetter =
        Nat.toDigits 10 row :=
  span_of_letters_digits (fun _ => Column.isLetter_of_mem_letters) Nat.toDigits_ne_nil
    fun _ => Nat.isDigit_of_mem_toDigits (by decide) (by decide)

/-- **The canonical spelling reads back.** -/
theorem ofChars?_toChars {r : Reference} (h : r.IsCell) : ofChars? r.toChars = some r := by
  obtain ⟨htake, hdrop⟩ := span_letters_digits r.column.toNat r.row.toNat
  simp only [toChars, ofChars?, List.cons_append, htake, hdrop, Column.ofLetters?_letters h.1,
    Decimal.word?_toDigits, h.2, if_false]

/-- **What is read names a cell.** -/
theorem isCell_of_ofChars? {cs : List Char} {r : Reference} (h : ofChars? cs = some r) :
    r.IsCell := by
  simp only [ofChars?] at h
  split at h
  · rename_i column row hcolumn _
    split at h
    · simp at h
    · obtain rfl := Option.some.inj h
      exact ⟨Column.ne_zero_of_ofLetters? hcolumn, by assumption⟩
  · simp at h

end Reference

end SharedSheet
