/-!
# Writing JSON

Records are written with their members in a fixed order. There are two layouts: everything on one
line without blanks, and one member or item a line, indented by two blanks for each bracket around
it. An empty list or record has no blanks in either.

In a text the quote, the backslash and the characters below U+0020 are escaped, and nothing else.

## Main definitions

* `Json` — the values that are written
* `Json.compact`, `Json.pretty` — the two layouts
-/

namespace SharedSheet

/-- A value that can be written. -/
inductive Json where
  | truth (b : Bool)
  | natural (n : Nat)
  | text (s : String)
  | list (items : List Json)
  | record (members : List (String × Json))

namespace Json

/-! ### Texts -/

/-- A character as it stands in a text. -/
def escaped (c : Char) : List Char :=
  match c with
  | '"' => ['\\', '"']
  | '\\' => ['\\', '\\']
  | '\n' => ['\\', 'n']
  | '\r' => ['\\', 'r']
  | '\t' => ['\\', 't']
  | '\x08' => ['\\', 'b']
  | '\x0c' => ['\\', 'f']
  | c =>
    if c.toNat < 0x20 then
      ['\\', 'u', '0', '0', Nat.digitChar (c.toNat / 16), Nat.digitChar (c.toNat % 16)]
    else [c]

/-- A text in its quotes. -/
def quotedChars (s : String) : List Char := '"' :: (s.toList.flatMap escaped ++ ['"'])

/-! ### Layouts -/

/-- How values are laid out: on one line, or on many with so many blanks before each. -/
inductive Layout where
  | oneLine
  | indented (blanks : Nat)

namespace Layout

/-- The layout inside one more bracket. -/
def deeper : Layout → Layout
  | oneLine => oneLine
  | indented blanks => indented (blanks + 2)

/-- What starts an item. -/
def newline : Layout → List Char
  | oneLine => []
  | indented blanks => '\n' :: List.replicate blanks ' '

/-- What stands between the name of a member and its value. -/
def colon : Layout → List Char
  | oneLine => [':']
  | indented _ => [':', ' ']

end Layout

mutual

/-- A value in a layout. -/
def write (l : Layout) : Json → List Char
  | truth true => ['t', 'r', 'u', 'e']
  | truth false => ['f', 'a', 'l', 's', 'e']
  | natural n => Nat.toDigits 10 n
  | text s => quotedChars s
  | list [] => ['[', ']']
  | list (item :: items) =>
    '[' :: (l.deeper.newline ++ write l.deeper item ++ writeItems l.deeper items ++ l.newline ++
      [']'])
  | record [] => ['\x7b', '\x7d']
  | record ((name, value) :: members) =>
    '\x7b' :: (l.deeper.newline ++ quotedChars name ++ l.colon ++ write l.deeper value ++
      writeMembers l.deeper members ++ l.newline ++ ['\x7d'])

/-- Further items of a list, each after a comma. -/
def writeItems (l : Layout) : List Json → List Char
  | [] => []
  | item :: items => ',' :: (l.newline ++ write l item ++ writeItems l items)

/-- Further members of a record, each after a comma. -/
def writeMembers (l : Layout) : List (String × Json) → List Char
  | [] => []
  | (name, value) :: members =>
    ',' :: (l.newline ++ quotedChars name ++ l.colon ++ write l value ++ writeMembers l members)

end

/-- A value on one line. -/
def compact (j : Json) : String := String.ofList (write .oneLine j)

/-- A value on many lines. -/
def pretty (j : Json) : String := String.ofList (write (.indented 0) j)

end Json

end SharedSheet
