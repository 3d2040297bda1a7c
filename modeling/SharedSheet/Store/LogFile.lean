import SharedSheet.Records
import SharedSheet.Text.Blank
import SharedSheet.Text.Lines

/-!
# The text of the log

The log is a file of lines, each an entry as JSON without blanks. A program that stops in the middle
of a write may leave a last line without its end: such a line is torn. It is dropped when it cannot
be read. Any other line that cannot be read makes the whole file unreadable. Lines of white space
are passed over.

## Main definitions

* `LogEntry.line`, `LogFile.render` — the lines of entries
* `LogFile.parse` — the entries of a text, and whether its last line is torn
-/

namespace SharedSheet

/-- The line of an entry, with its newline. -/
def LogEntry.line (e : LogEntry) : String := e.toJson.compact ++ "\n"

namespace LogFile

/-- The text of entries. -/
def render (es : List LogEntry) : String := String.join (es.map LogEntry.line)

/-- The entry of a line. -/
def parseLine (line : List Char) : Except Json.Fault LogEntry :=
  (Json.Decoder.record LogEntry.recordForm).decode (String.ofList line)

/-- The entries of lines that are not blank, and whether the last one is torn; `torn` tells whether
the text ends without a newline. -/
def parseLines (torn : Bool) : List (List Char) → Except Json.Fault (List LogEntry × Bool)
  | [] => .ok ([], torn)
  | line :: lines =>
    match parseLine line with
    | .error e => if lines.isEmpty then .ok ([], true) else .error e
    | .ok e =>
      match parseLines torn lines with
      | .ok (es, torn) => .ok (e :: es, torn)
      | .error e => .error e

/-- Whether a text does not end in a newline. The empty text has nothing to end. -/
def endsTorn (cs : List Char) : Bool :=
  match cs.getLast? with
  | none | some '\n' => false
  | some _ => true

/-- The entries of a text in the order of their numbers, and whether its last line is torn. -/
def parse (s : String) : Except Json.Fault (List LogEntry × Bool) :=
  match parseLines (endsTorn s.toList) ((Text.lines s.toList).filter (!Text.isAllBlank ·)) with
  | .ok (es, torn) => .ok (es.mergeSort fun a b => a.id ≤ b.id, torn)
  | .error e => .error e

end LogFile

/-- The text of the registry's file. -/
def Registry.render (g : Registry) : String := g.toJson.pretty

/-- The registry of a text. -/
def Registry.parse (s : String) : Except Json.Fault Registry :=
  (Json.Decoder.record Registry.recordForm).decode s

end SharedSheet
