import Mathlib.Data.List.TakeWhile
import Mathlib.Data.Nat.Digits.Defs
import SharedSheet.Proofs.Reference.Spelling

/-!
# Which texts spell which cells

A `Spelling` is a text that names a cell, taken apart into a dollar sign or none, letters and
digits. That it names a cell is part of it: the numbers of its letters and digits are at least 1
and fit 32 bits. They are said as sums in which each letter and digit has the weight of its place,
so that nothing here depends on how a text is run through.

Reading and writing are told from there. The texts that are read are the spellings. Of the
spellings of one cell exactly one is written, the one with the dollar sign and without a zero in
front of the row. And no two references are written alike, even if they name no cell: the letters
end where the digits start, also when there are none.

## Main definitions

* `Reference.Spelling` — a dollar sign or none, letters and digits that name a cell
* `Reference.Spelling.IsCanonical` — the spelling that is written

## Main results

* `Reference.ofChars?_eq_some_iff_spelling` — what is read
* `Reference.Spelling.toChars_reference` — how it is written
* `Reference.toChars_injective` — what is written tells the reference
* `Reference.codec_exact` — all of this of strings
-/

namespace SharedSheet

namespace Reference

/-! ### Letters and digits by their places -/

/-- The number of a column in bijective base 26, in which `A` counts 1 and `Z` counts 26. -/
def columnNumber (letters : List Char) : Nat :=
  Nat.ofDigits 26 (letters.reverse.map fun c => c.toNat - 'A'.toNat + 1)

/-- The number of a row in base 10. -/
def rowNumber (digits : List Char) : Nat :=
  Nat.ofDigits 10 (digits.reverse.map fun c => c.toNat - '0'.toNat)

theorem value_eq_columnNumber {letters : List Char}
    (h : ∀ c ∈ letters, Column.isLetter c = true) :
    Column.value letters = columnNumber letters := by
  induction letters using List.reverseRecOn with
  | nil => rfl
  | append_singleton letters c ih =>
    obtain ⟨hletters, hc⟩ := List.forall_mem_append.1 h
    have hle := Column.toNat_of_isLetter (hc c List.mem_cons_self)
    have hc : Column.letterValue c = c.toNat - 'A'.toNat + 1 := by
      show c.toNat - 64 = c.toNat - 65 + 1
      omega
    rw [Column.value_concat, ih hletters, hc, columnNumber, columnNumber, List.reverse_concat,
      List.map_cons, Nat.ofDigits_cons]
    omega

theorem ofDigitChars_eq_rowNumber (digits : List Char) :
    Nat.ofDigitChars 10 digits 0 = rowNumber digits := by
  induction digits using List.reverseRecOn with
  | nil => rfl
  | append_singleton digits c ih =>
    rw [Nat.ofDigitChars_append, ih, Nat.ofDigitChars_cons, Nat.ofDigitChars_nil, rowNumber,
      rowNumber, List.reverse_concat, List.map_cons, Nat.ofDigits_cons]
    omega

/-! ### Spellings -/

/-- A text that names a cell, in its parts. -/
structure Spelling where
  /-- Whether there is a dollar sign. -/
  dollar : Bool
  /-- The letters of the column. -/
  letters : List Char
  /-- The digits of the row. -/
  digits : List Char
  letters_ne_nil : letters ≠ []
  isLetter_of_mem : ∀ c ∈ letters, Column.isLetter c = true
  digits_ne_nil : digits ≠ []
  isDigit_of_mem : ∀ c ∈ digits, c.isDigit = true
  column_le : columnNumber letters ≤ 4294967295
  row_pos : 1 ≤ rowNumber digits
  row_le : rowNumber digits ≤ 4294967295

namespace Spelling

/-- The characters of the text. -/
def chars (p : Spelling) : List Char :=
  (if p.dollar then ['$'] else []) ++ (p.letters ++ p.digits)

/-- The text. -/
def text (p : Spelling) : String := String.ofList p.chars

/-- The cell that is named. -/
def reference (p : Spelling) : Reference :=
  ⟨UInt32.ofNat (columnNumber p.letters), UInt32.ofNat (rowNumber p.digits)⟩

/-- The spelling has its dollar sign and no zero in front of the row. -/
def IsCanonical (p : Spelling) : Prop := p.dollar = true ∧ p.digits.head? ≠ some '0'

variable (p : Spelling)

@[simp] theorem toNat_column : p.reference.column.toNat = columnNumber p.letters :=
  UInt32.toNat_ofNat_of_lt' (Nat.lt_succ_of_le p.column_le)

@[simp] theorem toNat_row : p.reference.row.toNat = rowNumber p.digits :=
  UInt32.toNat_ofNat_of_lt' (Nat.lt_succ_of_le p.row_le)

end Spelling

/-! ### Reading -/

variable {cs : List Char} {r : Reference}

/-- A text without its dollar sign. -/
def withoutDollar (cs : List Char) : List Char := if cs.head? = some '$' then cs.tail else cs

theorem ofChars?_eq_bind (cs : List Char) : ofChars? cs =
    (Column.ofLetters? ((withoutDollar cs).takeWhile Column.isLetter)).bind fun column =>
      (Decimal.word? ((withoutDollar cs).dropWhile Column.isLetter)).bind fun row =>
        if row = 0 then none else some ⟨column, row⟩ := by
  -- A missing dollar sign may be put back.
  have hstrip : ofChars? cs = ofChars? ('$' :: withoutDollar cs) := by
    cases cs with
    | nil => rfl
    | cons c cs => by_cases hc : c = '$' <;> simp [ofChars?, withoutDollar, hc]
  rw [hstrip, ofChars?]
  cases Column.ofLetters? ((withoutDollar cs).takeWhile Column.isLetter) <;>
    cases Decimal.word? ((withoutDollar cs).dropWhile Column.isLetter) <;> rfl

/-- What a text is read as, part by part. -/
theorem ofChars?_eq_some_iff : ofChars? cs = some r ↔
    Column.ofLetters? ((withoutDollar cs).takeWhile Column.isLetter) = some r.column ∧
      Decimal.word? ((withoutDollar cs).dropWhile Column.isLetter) = some r.row ∧ r.row ≠ 0 := by
  simp only [ofChars?_eq_bind, Option.bind_eq_some_iff, Option.ite_none_left_eq_some,
    Option.some.injEq]
  constructor
  · rintro ⟨column, hcolumn, row, hrow, hne, rfl⟩
    exact ⟨hcolumn, hrow, hne⟩
  · rintro ⟨hcolumn, hrow, hne⟩
    exact ⟨_, hcolumn, _, hrow, hne, rfl⟩

theorem columnNumber_of_ofChars? (h : ofChars? cs = some r) :
    columnNumber ((withoutDollar cs).takeWhile Column.isLetter) = r.column.toNat := by
  obtain ⟨-, hletters, hvalue⟩ := Column.ofLetters?_eq_some_iff.1 (ofChars?_eq_some_iff.1 h).1
  rw [← value_eq_columnNumber hletters, hvalue]

theorem rowNumber_of_ofChars? (h : ofChars? cs = some r) :
    rowNumber ((withoutDollar cs).dropWhile Column.isLetter) = r.row.toNat := by
  obtain ⟨-, -, hvalue⟩ := Decimal.word?_eq_some_iff.1 (ofChars?_eq_some_iff.1 h).2.1
  rw [← ofDigitChars_eq_rowNumber, hvalue]

namespace Spelling

/-- The letters do not start with a dollar sign. -/
theorem exists_letters_eq (p : Spelling) : ∃ c cs, p.letters = c :: cs ∧ c ≠ '$' := by
  obtain ⟨c, cs, hletters⟩ := List.exists_cons_of_ne_nil p.letters_ne_nil
  refine ⟨c, cs, hletters, ?_⟩
  rintro rfl
  exact absurd (p.isLetter_of_mem '$' (hletters ▸ List.mem_cons_self)) (by decide)

theorem head?_chars_eq_iff (p : Spelling) : p.chars.head? = some '$' ↔ p.dollar = true := by
  obtain ⟨c, cs, hletters, hc⟩ := p.exists_letters_eq
  cases hdollar : p.dollar <;> simp [chars, hdollar, hletters, hc]

theorem withoutDollar_chars (p : Spelling) : withoutDollar p.chars = p.letters ++ p.digits := by
  obtain ⟨c, cs, hletters, hc⟩ := p.exists_letters_eq
  cases hdollar : p.dollar <;> simp [withoutDollar, chars, hdollar, hletters, hc]

/-- A spelling is read as the cell that it names. -/
theorem ofChars?_chars (p : Spelling) : ofChars? p.chars = some p.reference := by
  obtain ⟨htake, hdrop⟩ :=
    span_of_letters_digits p.isLetter_of_mem p.digits_ne_nil p.isDigit_of_mem
  rw [ofChars?_eq_some_iff, withoutDollar_chars, htake, hdrop, Column.ofLetters?_eq_some_iff,
    Decimal.word?_eq_some_iff, toNat_column, toNat_row]
  refine ⟨⟨p.letters_ne_nil, p.isLetter_of_mem, value_eq_columnNumber p.isLetter_of_mem⟩,
    ⟨p.digits_ne_nil, p.isDigit_of_mem, ofDigitChars_eq_rowNumber _⟩, fun h0 => ?_⟩
  have hrow := congrArg UInt32.toNat h0
  rw [toNat_row] at hrow
  exact absurd (hrow ▸ p.row_pos) (by decide)

/-- The parts of a text that is read. -/
def ofRead (h : ofChars? cs = some r) : Spelling where
  dollar := cs.head? = some '$'
  letters := (withoutDollar cs).takeWhile Column.isLetter
  digits := (withoutDollar cs).dropWhile Column.isLetter
  letters_ne_nil := (Column.ofLetters?_eq_some_iff.1 (ofChars?_eq_some_iff.1 h).1).1
  isLetter_of_mem := (Column.ofLetters?_eq_some_iff.1 (ofChars?_eq_some_iff.1 h).1).2.1
  digits_ne_nil := (Decimal.word?_eq_some_iff.1 (ofChars?_eq_some_iff.1 h).2.1).1
  isDigit_of_mem := (Decimal.word?_eq_some_iff.1 (ofChars?_eq_some_iff.1 h).2.1).2.1
  column_le := columnNumber_of_ofChars? h ▸ Nat.le_of_lt_succ r.column.toNat_lt
  row_pos := rowNumber_of_ofChars? h ▸ Nat.pos_of_ne_zero fun h0 =>
    (ofChars?_eq_some_iff.1 h).2.2 (UInt32.toNat_inj.1 h0)
  row_le := rowNumber_of_ofChars? h ▸ Nat.le_of_lt_succ r.row.toNat_lt

theorem chars_ofRead (h : ofChars? cs = some r) : (ofRead h).chars = cs := by
  show (if decide (cs.head? = some '$') = true then ['$'] else []) ++
    ((withoutDollar cs).takeWhile Column.isLetter ++
      (withoutDollar cs).dropWhile Column.isLetter) = cs
  rw [List.takeWhile_append_dropWhile, withoutDollar]
  by_cases hdollar : cs.head? = some '$'
  · obtain ⟨cs, rfl⟩ := List.head?_eq_some_iff.1 hdollar
    rfl
  · simp [hdollar]

theorem reference_ofRead (h : ofChars? cs = some r) : (ofRead h).reference = r :=
  eq_iff_toNat.2 ⟨(toNat_column _).trans (columnNumber_of_ofChars? h),
    (toNat_row _).trans (rowNumber_of_ofChars? h)⟩

end Spelling

/-- **The texts that are read are the spellings.** -/
theorem ofChars?_eq_some_iff_spelling : ofChars? cs = some r ↔
    ∃ p : Spelling, p.chars = cs ∧ p.reference = r :=
  ⟨fun h => ⟨.ofRead h, Spelling.chars_ofRead h, Spelling.reference_ofRead h⟩,
    fun ⟨p, hcs, hr⟩ => hcs ▸ hr ▸ p.ofChars?_chars⟩

/-! ### Writing -/

/-- **How a spelling is written**: with a dollar sign, and without the zeros in front of the row. -/
theorem Spelling.toChars_reference (p : Spelling) :
    p.reference.toChars = '$' :: p.letters ++ p.digits.dropWhile (· == '0') := by
  have hrow : Nat.toDigits 10 (rowNumber p.digits) = p.digits.dropWhile (· == '0') := by
    rw [← ofDigitChars_eq_rowNumber]
    exact Decimal.toDigits_ofDigitChars p.isDigit_of_mem
      (ofDigitChars_eq_rowNumber p.digits ▸ p.row_pos)
  rw [toChars, toNat_column, toNat_row, hrow, ← value_eq_columnNumber p.isLetter_of_mem,
    Column.letters_value p.isLetter_of_mem]

/-- A spelling is written as it was just when it is canonical. -/
theorem Spelling.toChars_reference_eq_iff (p : Spelling) :
    p.reference.toChars = p.chars ↔ p.IsCanonical := by
  have hzeros : p.digits.dropWhile (· == '0') = p.digits ↔ p.digits.head? ≠ some '0' := by
    obtain ⟨d, ds, hdigits⟩ := List.exists_cons_of_ne_nil p.digits_ne_nil
    rw [hdigits, List.dropWhile_eq_self_iff]
    simp
  rw [toChars_reference, IsCanonical, ← hzeros]
  cases hdollar : p.dollar with
  | true => simp [chars, hdollar]
  | false =>
    obtain ⟨c, cs, hletters, hc⟩ := p.exists_letters_eq
    simp [chars, hdollar, hletters, hc.symm]

/-- **What is written tells the reference**, also of references that name no cell. -/
theorem toChars_injective : Function.Injective toChars := by
  intro r r' h
  -- Digits are no letters, so the letters in front are the column and the rest is the row.
  obtain ⟨htake, hdrop⟩ := span_letters_digits r.column.toNat r.row.toNat
  obtain ⟨htake', hdrop'⟩ := span_letters_digits r'.column.toNat r'.row.toNat
  have htail := congrArg List.tail h
  simp only [toChars, List.cons_append, List.tail_cons] at htail
  have hcolumn : r.column.toNat = r'.column.toNat := by
    rw [← Column.value_letters r.column.toNat, ← htake, htail, htake', Column.value_letters]
  have hrow : r.row.toNat = r'.row.toNat := by
    rw [← Nat.ofDigitChars_ten_toDigits (n := r.row.toNat), ← hdrop, htail, hdrop',
      Nat.ofDigitChars_ten_toDigits]
  exact eq_iff_toNat.2 ⟨hcolumn, hrow⟩

/-! ### Strings -/

theorem ofString_eq_ok_iff {s : String} : ofString s = .ok r ↔ ofChars? s.toList = some r := by
  rw [ofString]
  cases ofChars? s.toList <;> simp

theorem toString_injective : Function.Injective Reference.toString :=
  fun _ _ h => toChars_injective (String.ofList_injective h)

/-- **Reading and writing of references, exactly.** The texts that are read are the spellings, and
they are read as the numbers of their letters and digits. Writing what was read gives the text just
when the spelling is canonical. What is written of a reference is read as the reference just when it
names a cell. References that are written alike are equal, whether they name a cell or not. -/
theorem codec_exact :
    (∀ s r, ofString s = .ok r ↔ ∃ p : Spelling, p.text = s ∧
      columnNumber p.letters = r.column.toNat ∧ rowNumber p.digits = r.row.toNat) ∧
    (∀ p : Spelling, ∃ r, ofString p.text = .ok r ∧ (r.toString = p.text ↔ p.IsCanonical)) ∧
    (∀ r : Reference, ofString r.toString = .ok r ↔ 1 ≤ r.column ∧ 1 ≤ r.row) ∧
    Function.Injective Reference.toString := by
  have hread : ∀ p : Spelling, ofString p.text = .ok p.reference := fun p =>
    ofString_eq_ok_iff.2 (by rw [Spelling.text, String.toList_ofList, p.ofChars?_chars])
  refine ⟨fun s r => ?_, fun p => ⟨p.reference, hread p, ?_⟩, fun r => ?_, toString_injective⟩
  · rw [ofString_eq_ok_iff, ofChars?_eq_some_iff_spelling]
    refine exists_congr fun p => and_congr ?_ ?_
    · rw [Spelling.text, ← String.toList_inj, String.toList_ofList]
    · rw [eq_iff_toNat, p.toNat_column, p.toNat_row]
  · rw [← p.toChars_reference_eq_iff, Reference.toString, Spelling.text, String.ofList_inj]
  · rw [ofString_eq_ok_iff, Reference.toString, String.toList_ofList, ← isCell_iff]
    exact ⟨isCell_of_ofChars?, ofChars?_toChars⟩

/-- The last column and the last row that there are, and the column after it. -/
example : ofString "MWLQKWU004294967295" = .ok ⟨4294967295, 4294967295⟩ ∧
    (⟨4294967295, 4294967295⟩ : Reference).toString = "$MWLQKWU4294967295" ∧
    ofString "$MWLQKWV1" = .error ⟨"$MWLQKWV1"⟩ := by
  decide +kernel

end Reference

end SharedSheet
