import SharedSheet.Text.CodePoints

/-!
# Blank characters

White space is the Unicode property `White_Space`: 25 code points in ten runs. Formulas, terms,
payload lines, names and settings all use this one set.

## Main definitions

* `isBlank` — membership in the property
* `trimStart`, `trim` — a text without the blanks at its start, or at both ends
* `isAllBlank` — a text of blanks only
-/

namespace SharedSheet.Text

/-- The runs of `White_Space`. -/
def blanks : CodePoints :=
  [0x09, 0x0E, 0x20, 0x21, 0x85, 0x86, 0xA0, 0xA1, 0x1680, 0x1681, 0x2000, 0x200B,
   0x2028, 0x202A, 0x202F, 0x2030, 0x205F, 0x2060, 0x3000, 0x3001]

/-- Whether a character is white space. -/
def isBlank (c : Char) : Bool := blanks.contains c.toNat

/-- Drops the blanks at the start. -/
def trimStart (cs : List Char) : List Char := cs.dropWhile isBlank

/-- Drops the blanks at both ends. -/
def trim (cs : List Char) : List Char := ((trimStart cs).reverse.dropWhile isBlank).reverse

/-- Whether nothing but blanks is there. -/
def isAllBlank (cs : List Char) : Bool := cs.all isBlank

/-- The text of a string without the blanks at both ends. -/
def trimmed (s : String) : String := String.ofList (trim s.toList)

/-- Every character that core counts as white space is blank. -/
theorem isBlank_of_isWhitespace {c : Char} (h : c.isWhitespace = true) : isBlank c = true := by
  simp only [Char.isWhitespace, Bool.or_eq_true, decide_eq_true_eq] at h
  rcases h with ((h | h) | h) | h <;> subst h <;> decide

end SharedSheet.Text
