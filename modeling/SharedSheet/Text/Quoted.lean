import SharedSheet.Text.Unprintable

/-!
# Quoted texts

Messages show a text between double quotes, in a form that no control character, mark or quote
inside the text can disturb: `"` and `\` follow a backslash, tab, carriage return, newline and NUL
have a letter, and every other character that would not show as itself is written `\u` with its
number in hexadecimal between braces.

## Main definitions

* `escaped` — how one character is written between the quotes
* `quoted` — the whole text with its quotes
-/

namespace SharedSheet.Text

/-- One character as it stands between the quotes. -/
def escaped (c : Char) : List Char :=
  match c with
  | '"' => ['\\', '"']
  | '\\' => ['\\', '\\']
  | '\t' => ['\\', 't']
  | '\r' => ['\\', 'r']
  | '\n' => ['\\', 'n']
  | '\x00' => ['\\', '0']
  | c =>
    if isGraphemeExtend c || isUnprintable c then
      ['\\', 'u', '\x7b'] ++ Nat.toDigits 16 c.toNat ++ ['\x7d']
    else [c]

/-- A text between double quotes. -/
def quoted (s : String) : String := String.ofList ('"' :: s.toList.flatMap escaped ++ ['"'])

end SharedSheet.Text
