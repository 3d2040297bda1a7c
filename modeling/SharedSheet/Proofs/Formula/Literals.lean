import SharedSheet.Formula.Value
import SharedSheet.Proofs.Formula.ReadSet

/-!
# Literals in two readings

A text that is no formula is read twice. The parser cuts it into tokens and looks whether there is
one. A worksheet drops the white space around it and looks whether a numeral is left. The two agree
on numbers, since a text is one token just when it is that token without white space around it, and
a numeral is a token of its own.

They do not agree on what is a text. A dollar sign with letters and digits is one token, and the
parser refuses it if it names no cell, while a worksheet takes it for a text.

## Main definitions

* `NamesNoCell` — a text that has the form of a reference, but names no cell

## Main results

* `Token.stands_number_iff`, `Token.stands_reference_iff` — which texts are one such token
* `Term.ofString_eq_ok_number_iff` — the texts that are read as a number
* `Term.ofString_eq_error_iff` — the texts that are refused, and how
* `literals_read_alike` — where the two readings agree
-/

namespace SharedSheet

open Formula Formula.Token

/-! ### Single tokens -/

namespace Formula.Token

variable {cs : List Char}

/-- The numerals are one token each. -/
theorem stands_number_iff :
    Stands .number cs ↔ cs ≠ [] ∧ (Decimal.split true cs).1 = cs := by
  constructor
  · rintro ⟨c, more, rfl, -, hlead⟩
    rcases lead_cases hlead with h | ⟨-, h, -⟩
    · cases special_of_special? h with
      | number hlength =>
        exact ⟨List.cons_ne_nil c more, (split_isPrefix true _).eq_of_length hlength⟩
    · cases h
  · rintro ⟨hne, hsplit⟩
    obtain ⟨c, more, rfl⟩ := List.exists_cons_of_ne_nil hne
    have hc : c.isDigit = true ∨ c = '.' ∨ Decimal.isSign c = true :=
      mem_split (hsplit.symm ▸ List.mem_cons_self)
    have hblank : Text.isBlank c = false := by
      rcases hc with hc | rfl | hc
      · exact isBlank_of_isDigit hc
      · decide
      · exact isBlank_of_isSign hc
    have hequals : c ≠ '=' := by
      rintro rfl
      exact absurd hc (by decide)
    refine ⟨c, more, rfl, hblank, ?_⟩
    rw [lead_eq, special?, if_neg hequals, hsplit]
    rfl

/-- A text in the form of a reference, whatever its letters and digits count to. -/
structure IsReferenceLike (cs : List Char) (letters digits : List Char) : Prop where
  eq : cs = '$' :: (letters ++ digits)
  letters_ne_nil : letters ≠ []
  isLetter_of_mem : ∀ c ∈ letters, Column.isLetter c = true
  digits_ne_nil : digits ≠ []
  isDigit_of_mem : ∀ c ∈ digits, c.isDigit = true

/-- The texts in the form of a reference are one token each. -/
theorem stands_reference_iff :
    Stands .reference cs ↔ ∃ letters digits, IsReferenceLike cs letters digits := by
  constructor
  · rintro ⟨c, more, rfl, -, hlead⟩
    rcases lead_cases hlead with h | ⟨-, h, -⟩
    · generalize hn : more.length = n at h
      cases special_of_special? h with
      | reference hlength =>
        obtain ⟨letters, digits, rest, hcs, rfl, ⟨hne, hletters⟩, hne', hdigits⟩ :=
          exists_of_referenceLength? hlength
        -- The token is as long as the text, so nothing follows the digits.
        have hrest : rest = [] := by
          have hlength := congrArg List.length hcs
          simp only [List.length_append, List.length_cons] at hlength hn
          exact List.length_eq_zero_iff.1 (by omega)
        rw [hrest, List.append_nil] at hcs
        exact ⟨letters, digits, hcs, hne, hletters, hne', hdigits⟩
    · cases h
  · rintro ⟨letters, digits, h⟩
    exact h.eq ▸ stands_of_letters_digits h.letters_ne_nil h.isLetter_of_mem h.digits_ne_nil
      h.isDigit_of_mem

end Formula.Token

/-! ### Numerals -/

/-- What is read as a number is one numeral. -/
theorem Decimal.number?_eq_some_iff {cs : List Char} {x : Float} : Decimal.number? cs = some x ↔
    (cs ≠ [] ∧ (Decimal.split true cs).1 = cs) ∧ (Decimal.ofNumeral cs).toFloat = x := by
  have hcs := split_fst_append_snd true cs
  unfold Decimal.number?
  generalize Decimal.split true cs = parts at hcs
  obtain ⟨numeral, rest⟩ := parts
  subst hcs
  cases numeral with
  | nil => cases rest <;> simp
  | cons c numeral => cases rest <;> simp

namespace Formula

open Reference (columnNumber rowNumber)

variable {s : String} {x : Float}

/-! ### References -/

/-- A text in the form of a reference is none if its column or its row does not fit 32 bits, or if
its row is zero. -/
theorem Token.IsReferenceLike.ofChars?_eq_none_iff {cs letters digits : List Char}
    (h : IsReferenceLike cs letters digits) : Reference.ofChars? cs = none ↔
      4294967295 < columnNumber letters ∨ rowNumber digits = 0 ∨
        4294967295 < rowNumber digits := by
  obtain ⟨htake, hdrop⟩ :=
    Reference.span_of_letters_digits h.isLetter_of_mem h.digits_ne_nil h.isDigit_of_mem
  have hparts : Reference.withoutDollar cs = letters ++ digits := by
    rw [h.eq, Reference.withoutDollar]
    rfl
  rw [← hparts] at htake hdrop
  constructor
  · intro hnone
    by_contra! hfits
    let p : Reference.Spelling := {
      dollar := true
      letters := letters
      digits := digits
      letters_ne_nil := h.letters_ne_nil
      isLetter_of_mem := h.isLetter_of_mem
      digits_ne_nil := h.digits_ne_nil
      isDigit_of_mem := h.isDigit_of_mem
      column_le := hfits.1
      row_pos := Nat.pos_of_ne_zero hfits.2.1
      row_le := hfits.2.2 }
    have hread : Reference.ofChars? cs = some p.reference := h.eq ▸ p.ofChars?_chars
    rw [hnone] at hread
    cases hread
  · intro hmisses
    cases hread : Reference.ofChars? cs with
    | none => rfl
    | some r =>
      have hcolumn := Reference.columnNumber_of_ofChars? hread
      have hrow := Reference.rowNumber_of_ofChars? hread
      have hpos : r.row.toNat ≠ 0 := fun h0 =>
        (Reference.isCell_of_ofChars? hread).2 (UInt32.toNat_inj.1 h0)
      have hltcolumn := r.column.toNat_lt
      have hltrow := r.row.toNat_lt
      rw [htake] at hcolumn
      rw [hdrop] at hrow
      omega

/-- A text in the form of a reference that names no cell, with at most white space around it. -/
def NamesNoCell (s : String) : Prop :=
  ∃ letters digits, IsReferenceLike (Text.trim s.toList) letters digits ∧
    (4294967295 < columnNumber letters ∨ rowNumber digits = 0 ∨ 4294967295 < rowNumber digits)

theorem namesNoCell_iff : NamesNoCell s ↔
    ∃ t, Token.ofString s = [t] ∧ t.kind = .reference ∧
      Reference.ofChars? t.text.toList = none := by
  constructor
  · rintro ⟨letters, digits, hlike, hmisses⟩
    obtain ⟨t, ht, hkind⟩ := exists_ofString_iff_stands.2 (stands_reference_iff.2 ⟨_, _, hlike⟩)
    refine ⟨t, ht, hkind, ?_⟩
    rw [← trim_eq_of_ofString ht]
    exact hlike.ofChars?_eq_none_iff.2 hmisses
  · rintro ⟨t, ht, hkind, hnone⟩
    obtain ⟨letters, digits, hlike⟩ :=
      stands_reference_iff.1 (exists_ofString_iff_stands.1 ⟨t, ht, hkind⟩)
    rw [← trim_eq_of_ofString ht] at hnone
    exact ⟨letters, digits, hlike, hlike.ofChars?_eq_none_iff.1 hnone⟩

/-! ### The parser -/

namespace Term

theorem literal_eq_ok_number_iff : Term.literal s = .ok (.bare (.number x)) ↔
    ∃ t, Token.ofString s = [t] ∧ t.kind = .number ∧
      (Decimal.ofNumeral t.text.toList).toFloat = x := by
  unfold Term.literal
  split
  · rename_i t htokens
    simp only [htokens, List.cons.injEq, and_true, exists_eq_left']
    split
    · simp_all
    · split <;> simp_all
    · simp_all
  · rename_i hmany
    simp only [Except.ok.injEq, Term.bare.injEq, reduceCtorEq, false_iff]
    exact fun ⟨t, ht, _⟩ => hmany t ht

theorem literal_eq_error_iff {e : ParseError} : Term.literal s = .error e ↔
    ∃ t, Token.ofString s = [t] ∧ t.kind = .reference ∧
      Reference.ofChars? t.text.toList = none ∧
        .unexpectedToken t.offset .reference t.text = e := by
  unfold Term.literal
  split
  · rename_i t htokens
    simp only [htokens, List.cons.injEq, and_true, exists_eq_left']
    split
    · simp_all
    · split <;> simp_all
    · simp_all
  · rename_i hmany
    simp only [reduceCtorEq, false_iff]
    exact fun ⟨t, ht, _⟩ => hmany t ht

/-- **The texts that are read as a number** are the numerals. -/
theorem ofString_eq_ok_number_iff (h : isFormulaText s = false) :
    Term.ofString s = .ok (.bare (.number x)) ↔ Decimal.number? (Text.trim s.toList) = some x := by
  rw [ofString_of_not_isFormulaText h, literal_eq_ok_number_iff, Decimal.number?_eq_some_iff,
    ← stands_number_iff, ← exists_ofString_iff_stands]
  constructor
  · rintro ⟨t, ht, hkind, hx⟩
    exact ⟨⟨t, ht, hkind⟩, by rw [trim_eq_of_ofString ht, hx]⟩
  · rintro ⟨⟨t, ht, hkind⟩, hx⟩
    exact ⟨t, ht, hkind, by rw [← trim_eq_of_ofString ht, hx]⟩

/-- **The texts that are refused**, although they are no formulas, name no cell. -/
theorem ofString_eq_error_iff {e : ParseError} (h : isFormulaText s = false) :
    Term.ofString s = .error e ↔ NamesNoCell s ∧
      ∃ t, Token.ofString s = [t] ∧ .unexpectedToken t.offset .reference t.text = e := by
  rw [ofString_of_not_isFormulaText h, literal_eq_error_iff, namesNoCell_iff]
  constructor
  · rintro ⟨t, ht, hkind, hnone, he⟩
    exact ⟨⟨t, ht, hkind, hnone⟩, t, ht, he⟩
  · rintro ⟨⟨t, ht, hkind, hnone⟩, t', ht', he⟩
    obtain rfl := (List.cons.inj (ht.symm.trans ht')).1
    exact ⟨t, ht, hkind, hnone, he⟩

/-- The complaint is about the text without the white space around it, where that stands. -/
theorem exists_error_of_namesNoCell (h : isFormulaText s = false) (hnames : NamesNoCell s) :
    ∃ t, Token.ofString s = [t] ∧ t.text = Text.trimmed s ∧
      Term.ofString s = .error (.unexpectedToken t.offset .reference t.text) := by
  obtain ⟨t, ht, -⟩ := namesNoCell_iff.1 hnames
  exact ⟨t, ht, text_of_ofString ht, (ofString_eq_error_iff h).2 ⟨hnames, t, ht, rfl⟩⟩

theorem exists_ofString_iff (h : isFormulaText s = false) :
    (∃ t, Term.ofString s = .ok t) ↔ ¬NamesNoCell s := by
  constructor
  · rintro ⟨t, hok⟩ hnames
    obtain ⟨_, -, -, herror⟩ := exists_error_of_namesNoCell h hnames
    rw [hok] at herror
    cases herror
  · intro hnames
    cases hterm : Term.ofString s with
    | ok t => exact ⟨t, rfl⟩
    | error e => exact absurd ((ofString_eq_error_iff h).1 hterm).1 hnames

end Term

/-! ### Worksheets -/

namespace Value

theorem ofTerm_eq_number_iff :
    Value.ofTerm s = .number x ↔ Decimal.number? (Text.trim s.toList) = some x := by
  unfold Value.ofTerm
  cases Text.trim s.toList with
  | nil => simp [Decimal.number?, Decimal.split]
  | cons c cs => cases hnumber : Decimal.number? (c :: cs) <;> simp [hnumber]

/-- A worksheet takes a text that names no cell as it is. -/
theorem ofTerm_of_namesNoCell (h : NamesNoCell s) : Value.ofTerm s = .text s := by
  obtain ⟨letters, digits, hlike, -⟩ := h
  have hnumber : Decimal.number? ('$' :: (letters ++ digits)) = none := by
    simp [Decimal.number?, Decimal.split, Decimal.isSign, Decimal.splitUnsigned, Char.isDigit]
  unfold Value.ofTerm
  rw [hlike.eq]
  simp [hnumber]

end Value

/-! ### Both readings -/

/-- **Literals are read alike.** A text that is no formula is read by the parser unless it has the
form of a reference but names no cell. That is a text for a worksheet, and the parser refuses its
one token. A text is a number for the parser just when it is the same number for a worksheet, and
then it is one token for the parser, with the digits that a worksheet reads. -/
theorem literals_read_alike (h : isFormulaText s = false) :
    ((∃ t, Term.ofString s = .ok t) ↔ ¬NamesNoCell s) ∧
    (NamesNoCell s → Value.ofTerm s = .text s ∧
      ∃ t, Token.ofString s = [t] ∧ t.text = Text.trimmed s ∧
        Term.ofString s = .error (.unexpectedToken t.offset .reference t.text)) ∧
    (∀ x, Term.ofString s = .ok (.bare (.number x)) ↔ Value.ofTerm s = .number x) ∧
    (∀ x, Value.ofTerm s = .number x → (Decimal.ofNumeral (Text.trim s.toList)).toFloat = x ∧
      ∃ t, Token.ofString s = [t] ∧ t.text = Text.trimmed s ∧ t.kind = .number) := by
  refine ⟨Term.exists_ofString_iff h, fun hnames => ?_, fun x => ?_, fun x hx => ?_⟩
  · exact ⟨Value.ofTerm_of_namesNoCell hnames, Term.exists_error_of_namesNoCell h hnames⟩
  · rw [Term.ofString_eq_ok_number_iff h, Value.ofTerm_eq_number_iff]
  · rw [Value.ofTerm_eq_number_iff, Decimal.number?_eq_some_iff, ← stands_number_iff,
      ← exists_ofString_iff_stands] at hx
    obtain ⟨⟨t, ht, hkind⟩, hx⟩ := hx
    exact ⟨hx, t, ht, text_of_ofString ht, hkind⟩

/-- A number with a blank before it and a tab after it. -/
theorem literals_read_alike_indented :
    isFormulaText " -1.50\t" = false ∧ (∃ t, Term.ofString " -1.50\t" = .ok t) ∧
      Value.ofTerm " -1.50\t" = .number (Decimal.toFloat ⟨true, 150, -2⟩) ∧
      Term.ofString " -1.50\t" = .ok (.bare (.number (Decimal.toFloat ⟨true, 150, -2⟩))) ∧
      ∃ t, Token.ofString " -1.50\t" = [t] ∧ t.text = Text.trimmed " -1.50\t" ∧
        t.kind = .number := by
  have hbare : isFormulaText " -1.50\t" = false := by decide +kernel
  have htrim : Text.trim " -1.50\t".toList = ['-', '1', '.', '5', '0'] := by decide +kernel
  have hnames : ¬NamesNoCell " -1.50\t" := by
    rintro ⟨letters, digits, hlike, -⟩
    have heq := hlike.eq
    rw [htrim] at heq
    exact absurd (List.cons.inj heq).1 (by decide)
  have hvalue : Value.ofTerm " -1.50\t" = .number (Decimal.toFloat ⟨true, 150, -2⟩) := by
    rw [Value.ofTerm_eq_number_iff, htrim, Decimal.number?_eq_some_iff]
    exact ⟨⟨by decide, by decide⟩, congrArg Decimal.toFloat (by decide)⟩
  obtain ⟨hread, -, hnumber, htoken⟩ := literals_read_alike hbare
  exact ⟨hbare, hread.2 hnames, hvalue, (hnumber _).2 hvalue, (htoken _ hvalue).2⟩

/-- The parser refuses `$A0`. -/
theorem not_forall_literals_read_alike : ¬∀ s, isFormulaText s = false →
    (∃ t, Term.ofString s = .ok t) ∧
      ∀ x, Term.ofString s = .ok (.bare (.number x)) ↔ Value.ofTerm s = .number x := by
  intro h
  have hnames : NamesNoCell "$A0" := by
    refine ⟨['A'], ['0'], ⟨by decide +kernel, by decide, ?_, by decide, ?_⟩, .inr (.inl rfl)⟩
    · exact List.forall_mem_singleton.2 rfl
    · exact List.forall_mem_singleton.2 rfl
  have hbare : isFormulaText "$A0" = false := by decide +kernel
  exact (Term.exists_ofString_iff hbare).1 (h "$A0" hbare).1 hnames

end Formula

end SharedSheet
