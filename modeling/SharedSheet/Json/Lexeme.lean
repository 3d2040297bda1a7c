import SharedSheet.Json.Numeral

/-!
# Lexemes of JSON

A text is cut into brackets, commas, colons, words, numerals and texts, with white space between
them. Where the text stops being JSON there is one broken lexeme and nothing after it: a reader that
finds what it looks for, or a reason to refuse it, before that place never gets there.

A text may contain half of a surrogate pair. It is a lexeme all the same, but denotes no string; a
reader that skips it does not mind.

## Main definitions

* `Lexeme`
* `StringReading` — reading a text character by character
* `Lexeme.ofChars` — the lexemes of a text
-/

namespace SharedSheet.Json

/-- A piece of JSON. -/
inductive Lexeme where
  | openList
  | closeList
  | openRecord
  | closeRecord
  | comma
  | colon
  | null
  | truth (b : Bool)
  | number (n : Numeral)
  /-- A text, or one that denotes no string. -/
  | text (s : Option String)
  /-- The text is not JSON from here on. -/
  | broken
  deriving DecidableEq

/-! ### Texts -/

/-- Where in an escape the reading of a text is. -/
inductive Spot where
  /-- In none. -/
  | plain
  /-- After a backslash. -/
  | escape
  /-- After some of the four digits of a 16-bit unit. -/
  | unit (digits value : Nat)
  deriving DecidableEq

/-- What has been read of a text after its quote. -/
structure StringReading where
  /-- The characters so far, the last one first. -/
  out : List Char := []
  /-- The first half of a surrogate pair whose second half has to follow. -/
  half : Option Nat := none
  /-- Whether all halves so far were halves of pairs. -/
  sound : Bool := true
  spot : Spot := .plain

namespace StringReading

/-- The character of an escape of one letter. -/
def ofLetter? : Char → Option Char
  | '"' => some '"'
  | '\\' => some '\\'
  | '/' => some '/'
  | 'b' => some '\x08'
  | 'f' => some '\x0c'
  | 'n' => some '\n'
  | 'r' => some '\r'
  | 't' => some '\t'
  | _ => none

/-- The value of a hexadecimal digit. -/
def hexDigit? (c : Char) : Option Nat :=
  if '0' ≤ c ∧ c ≤ '9' then some (c.toNat - '0'.toNat)
  else if 'a' ≤ c ∧ c ≤ 'f' then some (c.toNat - 'a'.toNat + 10)
  else if 'A' ≤ c ∧ c ≤ 'F' then some (c.toNat - 'A'.toNat + 10)
  else none

/-- Whether a 16-bit unit is the first half of a surrogate pair. -/
def isFirstHalf (unit : Nat) : Bool := 0xD800 ≤ unit && unit < 0xDC00

/-- Whether a 16-bit unit is the second half of a surrogate pair. -/
def isSecondHalf (unit : Nat) : Bool := 0xDC00 ≤ unit && unit < 0xE000

/-- The reading after a character that is no half. -/
def push (r : StringReading) (c : Char) : StringReading :=
  { out := c :: r.out, half := none, sound := r.sound && r.half.isNone, spot := .plain }

/-- The reading after a 16-bit unit. -/
def pushUnit (r : StringReading) (unit : Nat) : StringReading :=
  match r.half with
  | some first =>
    if isSecondHalf unit then
      { r with
        out := Char.ofNat (0x10000 + (first - 0xD800) * 0x400 + (unit - 0xDC00)) :: r.out
        half := none
        spot := .plain }
    else { r with half := none, sound := false, spot := .plain }
  | none =>
    if isFirstHalf unit then { r with half := some unit, spot := .plain }
    else if isSecondHalf unit then { r with sound := false, spot := .plain }
    else r.push (Char.ofNat unit)

/-- The reading after one more character that is not the closing quote. -/
def next? (r : StringReading) (c : Char) : Option StringReading :=
  match r.spot with
  | .plain =>
    if c = '\\' then some { r with spot := .escape }
    else if c.toNat < 0x20 then none
    else some (r.push c)
  | .escape =>
    if c = 'u' then some { r with spot := .unit 0 0 }
    else (ofLetter? c).map r.push
  | .unit digits value =>
    match hexDigit? c with
    | none => none
    | some d =>
      if digits = 3 then some (r.pushUnit (value * 16 + d))
      else some { r with spot := .unit (digits + 1) (value * 16 + d) }

/-- The string that has been read. -/
def finish (r : StringReading) : Option String :=
  if r.sound && r.half.isNone then some (String.ofList r.out.reverse) else none

/-- Reads up to the closing quote. Returns the string and what follows, or nothing if the text is
broken. -/
def run (r : StringReading) : List Char → Option (Option String × List Char)
  | [] => none
  | c :: cs =>
    if c = '"' ∧ r.spot = .plain then some (r.finish, cs)
    else
      match r.next? c with
      | some r => run r cs
      | none => none

theorem length_run {r : StringReading} {cs rest : List Char} {s : Option String}
    (h : r.run cs = some (s, rest)) : rest.length ≤ cs.length := by
  induction cs generalizing r with
  | nil => simp [run] at h
  | cons c cs ih =>
    simp only [run] at h
    split at h
    · obtain ⟨-, rfl⟩ := Prod.mk.inj (Option.some.inj h)
      simp
    · split at h
      · exact Nat.le_succ_of_le (ih h)
      · simp at h

end StringReading

/-! ### Lexemes -/

namespace Lexeme

/-- White space of JSON. -/
def isSpace (c : Char) : Bool := c == ' ' || c == '\t' || c == '\n' || c == '\r'

/-- The lexeme that a word is, and what follows it. -/
def word (w : List Char) (l : Lexeme) (cs : List Char) : Lexeme × List Char :=
  if w.isPrefixOf cs then (l, cs.drop w.length) else (broken, [])

/-- The lexeme that starts with a character that is no white space, and what follows it. -/
def first (c : Char) (cs : List Char) : Lexeme × List Char :=
  match c with
  | '[' => (openList, cs)
  | ']' => (closeList, cs)
  | '\x7b' => (openRecord, cs)
  | '\x7d' => (closeRecord, cs)
  | ',' => (comma, cs)
  | ':' => (colon, cs)
  | 'n' => word ['u', 'l', 'l'] null cs
  | 't' => word ['r', 'u', 'e'] (truth true) cs
  | 'f' => word ['a', 'l', 's', 'e'] (truth false) cs
  | '"' =>
    match StringReading.run {} cs with
    | some (s, rest) => (text s, rest)
    | none => (broken, [])
  | c =>
    match Numeral.split? (c :: cs) with
    | some (n, rest) => (number n, rest)
    | none => (broken, [])

theorem length_first (c : Char) (cs : List Char) : (first c cs).2.length ≤ cs.length := by
  have hword : ∀ w l, (word w l cs).2.length ≤ cs.length := fun w l => by
    simp only [word]; split <;> simp
  unfold first
  split <;> try first | exact Nat.le_refl _ | exact hword _ _
  · split
    · exact StringReading.length_run (by assumption)
    · simp
  · split
    · exact Nat.le_of_lt_succ (Numeral.length_split (by assumption))
    · simp

/-- The lexemes of a text. Nothing follows a broken one. -/
def ofChars : List Char → List Lexeme
  | [] => []
  | c :: cs =>
    if isSpace c then ofChars cs
    else
      match _h : first c cs with
      | (broken, _) => [broken]
      | (l, rest) => l :: ofChars rest
termination_by cs => cs.length
decreasing_by
  · simp
  · have hlength := length_first c cs
    rw [_h] at hlength
    exact Nat.lt_succ_of_le hlength

end Lexeme

end SharedSheet.Json
