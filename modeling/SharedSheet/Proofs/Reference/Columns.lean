import SharedSheet.Proofs.Reference.Codec

/-!
# Which texts spell which columns

A column is spelled by letters alone. The number of the letters is said as a sum over their places,
as it is for references. A text is read just when its number fits 32 bits, however many letters it
takes to find out. Reading and writing undo each other.

## Main definitions

* `Column.IsSpelled` — a text that spells a column

## Main results

* `Column.ofString_eq_ok_iff` — what is read, and as what
* `Column.spelling_exact` — reading and writing of columns are inverse
-/

namespace SharedSheet.Column

open Reference (columnNumber value_eq_columnNumber)

/-- A text of letters, at least one, whose number fits 32 bits. -/
structure IsSpelled (s : String) : Prop where
  ne_empty : s ≠ ""
  between_of_mem : ∀ c ∈ s.toList, 'A' ≤ c ∧ c ≤ 'Z'
  le : columnNumber s.toList ≤ 4294967295

theorem isLetter_iff {c : Char} : isLetter c = true ↔ 'A' ≤ c ∧ c ≤ 'Z' := by simp [isLetter]

theorem IsSpelled.isLetter_of_mem {s : String} (h : IsSpelled s) :
    ∀ c ∈ s.toList, isLetter c = true :=
  fun c hc => isLetter_iff.2 (h.between_of_mem c hc)

/-- **The texts that are read are those that spell a column**, and they are read as its number. -/
theorem ofString_eq_ok_iff {s : String} {n : UInt32} :
    ofString s = .ok n ↔ IsSpelled s ∧ columnNumber s.toList = n.toNat := by
  have hread : ofString s = .ok n ↔ ofLetters? s.toList = some n := by
    rw [ofString]
    cases ofLetters? s.toList <;> simp
  rw [hread, ofLetters?_eq_some_iff, ne_eq, String.toList_eq_nil_iff]
  constructor
  · rintro ⟨hne, hletters, hvalue⟩
    rw [value_eq_columnNumber hletters] at hvalue
    exact ⟨⟨hne, fun c hc => isLetter_iff.1 (hletters c hc),
      hvalue ▸ Nat.le_of_lt_succ n.toNat_lt⟩, hvalue⟩
  · rintro ⟨hs, hvalue⟩
    exact ⟨hs.ne_empty, hs.isLetter_of_mem,
      (value_eq_columnNumber hs.isLetter_of_mem).trans hvalue⟩

/-- What spells a column is read. -/
theorem IsSpelled.exists_ofString {s : String} (h : IsSpelled s) : ∃ n, ofString s = .ok n :=
  ⟨UInt32.ofNat (columnNumber s.toList), ofString_eq_ok_iff.2
    ⟨h, (UInt32.toNat_ofNat_of_lt' (Nat.lt_succ_of_le h.le)).symm⟩⟩

/-- The letters of what was read are the text. -/
theorem letters_of_ofString {s : String} {n : UInt32} (h : ofString s = .ok n) :
    String.ofList (letters n.toNat) = s := by
  obtain ⟨hs, hvalue⟩ := ofString_eq_ok_iff.1 h
  rw [← hvalue, ← value_eq_columnNumber hs.isLetter_of_mem, letters_value hs.isLetter_of_mem,
    String.ofList_toList]

/-- The letters of a column are read as the column. -/
theorem ofString_letters {n : UInt32} (h : 1 ≤ n) :
    ofString (String.ofList (letters n.toNat)) = .ok n := by
  have hn : n ≠ 0 := by
    rintro rfl
    exact absurd h (by decide)
  rw [ofString, String.toList_ofList, ofLetters?_letters hn]

/-- **Letters and columns are in bijection.** A text is read just when it spells a column. It is
read as its number, whose letters are the text. The letters of every number from 1 on that fits 32
bits spell a column, and are read as the number. -/
theorem spelling_exact :
    (∀ s, (∃ n, ofString s = .ok n) ↔ IsSpelled s) ∧
    (∀ s n, ofString s = .ok n →
      n.toNat = columnNumber s.toList ∧ String.ofList (letters n.toNat) = s) ∧
    (∀ n : UInt32, 1 ≤ n → IsSpelled (String.ofList (letters n.toNat)) ∧
      ofString (String.ofList (letters n.toNat)) = .ok n) := by
  refine ⟨fun s => ⟨?_, IsSpelled.exists_ofString⟩, fun s n h => ?_, fun n h => ?_⟩
  · rintro ⟨n, h⟩
    exact (ofString_eq_ok_iff.1 h).1
  · exact ⟨(ofString_eq_ok_iff.1 h).2.symm, letters_of_ofString h⟩
  · exact ⟨(ofString_eq_ok_iff.1 (ofString_letters h)).1, ofString_letters h⟩

/-- The last column that there is has the letters `MWLQKWU`. One further is not read. -/
theorem spelling_exact_lastColumn :
    ofString "MWLQKWU" = .ok 4294967295 ∧
      (4294967295 : UInt32).toNat = columnNumber "MWLQKWU".toList ∧
      String.ofList (letters (4294967295 : UInt32).toNat) = "MWLQKWU" ∧
      IsSpelled (String.ofList (letters (4294967295 : UInt32).toNat)) ∧
      ¬∃ n, ofString "MWLQKWV" = .ok n := by
  have hread : ofString "MWLQKWU" = .ok 4294967295 := by decide +kernel
  obtain ⟨hspelled, hvalue, hletters⟩ := spelling_exact
  obtain ⟨hnumber, htext⟩ := hvalue _ _ hread
  refine ⟨hread, hnumber, htext, (hletters 4294967295 (by decide)).1, fun h => ?_⟩
  exact absurd ((hspelled "MWLQKWV").1 h).le (by decide +kernel)

end SharedSheet.Column
