import SharedSheet.Decimal.Digits
import SharedSheet.Reference.Basic
import SharedSheet.Text.Blank

/-!
# Commands of the terminal

A command is one line: a word, and after the first blank what it applies to. A line that starts with
a cell sets that cell.

## Main definitions

* `Command`, `Command.ofLine?`
* `Command.help` — the text that explains the commands
-/

namespace SharedSheet.Terminal

/-- Where the window moves. -/
inductive Direction where
  | up
  | left
  | down
  | right
  deriving DecidableEq

/-- What the terminal can be told. -/
inductive Command where
  | quit
  | help
  | view
  | payload
  | scroll (d : Direction)
  | scrollTo (r : Reference)
  | printing (enabled : Bool)
  | clearRow (row : UInt32)
  | clearColumn (column : UInt32)
  | set (r : Reference) (term : String)
  deriving DecidableEq

namespace Command

/-- The command of a line, or nothing if it is none. White space around the line and around what
the command applies to is not looked at. -/
def ofLine? (line : String) : Option Command :=
  let cs := Text.trim line.toList
  let head := cs.takeWhile (· ≠ ' ')
  let rest := Text.trim (cs.drop head.length)
  match String.ofList head, String.ofList rest with
  | "q", "" => some .quit
  | "help", "" => some .help
  | "show", "" => some .view
  | "payload", "" => some .payload
  | "w", "" => some (.scroll .up)
  | "a", "" => some (.scroll .left)
  | "s", "" => some (.scroll .down)
  | "d", "" => some (.scroll .right)
  | "enable_output", "" => some (.printing true)
  | "disable_output", "" => some (.printing false)
  | "scroll_to", _ => (Reference.ofChars? rest).map .scrollTo
  | "clear_row", _ => ((Decimal.signedWord? rest).filter (0 < ·)).map .clearRow
  | "clear_col", _ => (Column.ofLetters? rest).map .clearColumn
  | _, term =>
    if head.head? = some '$' then (Reference.ofChars? head).map (.set · term) else none

/-- What the commands do. -/
def helpText : String :=
  "Commands:\n" ++
  "  <ref> <term>: Set a cell, e.g. $A1 =SUM($B1:$B3); an empty term clears it\n" ++
  "  show: Print the visible window\n" ++
  "  payload: Print the sheet as payload text\n" ++
  "  clear_row <n>, clear_col <letters>: Clear a row or column\n" ++
  "  w/a/s/d: Scroll the window\n" ++
  "  scroll_to <ref>: Move the window to a cell\n" ++
  "  enable_output, disable_output: Toggle printing after each command\n" ++
  "  q: Quit\n"

end Command

end SharedSheet.Terminal
