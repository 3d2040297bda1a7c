/-!
# Lines

Texts are cut at newlines. A cut is made at every newline, so a text with `n` newlines has `n + 1`
pieces, the last of which is empty when the text ends in a newline.

## Main definitions

* `splitAtNewlines` — the pieces between newlines
* `withoutFinal` — a text without one given last character
* `lines` — the lines of a text file: the last newline ends a line and starts none, and one
  carriage return before a newline belongs to the line's end
-/

namespace SharedSheet.Text

/-- The pieces of a text between its newlines. -/
def splitAtNewlines (cs : List Char) : List (List Char) :=
  let (piece, pieces) := cs.foldr
    (fun c (piece, pieces) => if c = '\n' then ([], piece :: pieces) else (c :: piece, pieces))
    ([], [])
  piece :: pieces

/-- A text without its last character if that is `c`. -/
def withoutFinal (c : Char) (cs : List Char) : List Char :=
  if cs.getLast? = some c then cs.dropLast else cs

/-- The lines of a text file. -/
def lines (cs : List Char) : List (List Char) :=
  let pieces := splitAtNewlines cs
  let ended := pieces.dropLast.map (withoutFinal '\r')
  match pieces.getLast? with
  | some [] | none => ended
  | some piece => ended ++ [piece]

end SharedSheet.Text
