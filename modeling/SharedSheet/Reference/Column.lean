/-!
# Column letters

Columns are numbered in bijective base 26: `A` is 1, `Z` is 26, `AA` is 27. The system has no zero,
so every positive number has exactly one spelling and the number zero has none.

## Main definitions

* `Column.value` — the number that letters spell, without a bound
* `Column.letters` — the spelling of a number
* `Column.push?`, `Column.ofLetters?` — the number that letters spell, if it fits 32 bits
-/

namespace SharedSheet.Column

/-- Whether a character is one of the 26 column letters. -/
def isLetter (c : Char) : Bool := 'A' ≤ c && c ≤ 'Z'

/-- The number of one letter, from 1 to 26. -/
def letterValue (c : Char) : Nat := c.toNat - 64

/-- The number that letters spell. -/
def value (cs : List Char) : Nat := cs.foldl (fun n c => n * 26 + letterValue c) 0

/-- The letter of a number from 0 to 25. -/
def letter (n : Nat) : Char := Char.ofNat (65 + n)

/-- The spelling of a number, the last letter last. -/
def letters (n : Nat) : List Char :=
  if _h : n = 0 then [] else letters ((n - 1) / 26) ++ [letter ((n - 1) % 26)]
termination_by n
decreasing_by omega

/-- The number of the letters so far and one more behind them: refused when the character is no
letter, and when the number needs more than 32 bits. -/
def push? (n : UInt32) (c : Char) : Option UInt32 :=
  if isLetter c && n.toNat * 26 + letterValue c < UInt32.size then
    some (UInt32.ofNat (n.toNat * 26 + letterValue c))
  else none

/-- The number that letters spell, read letter by letter. There has to be a letter. -/
def ofLetters? (cs : List Char) : Option UInt32 :=
  if cs.isEmpty then none else cs.foldlM push? 0

end SharedSheet.Column
