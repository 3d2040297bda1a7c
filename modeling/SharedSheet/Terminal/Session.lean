import SharedSheet.Settings
import SharedSheet.Terminal.Command
import SharedSheet.Text.Lines
import SharedSheet.Worksheet.Window

/-!
# Sessions at the terminal

A session holds one worksheet and a window on it. Before every command it prompts: it shows the
window, unless that was turned off, then the time that the last command took and how it went.

## Main definitions

* `Session` — the worksheet, the window and the last status
* `Session.prompt`, `Session.step` — what is printed before a command, and what a command does
* `Session.transcript` — all that is printed for the lines of an input
-/

namespace SharedSheet.Terminal

/-- The rows and columns of the window. -/
def windowSize : UInt32 := 10

/-- How the last command went. -/
inductive Status where
  | done
  | invalidCommand
  | outOfRange
  | cellFailed (e : CellError)
  deriving DecidableEq

/-- How a status is worded. -/
def Status.message : Status → String
  | .done => "ok"
  | .invalidCommand => "invalid command"
  | .outOfRange => "out of range"
  | .cellFailed e => e.message

/-- A session. -/
structure Session where
  /-- The worksheet. -/
  sheet : Worksheet
  /-- The first cell of the window. -/
  origin : Reference := ⟨1, 1⟩
  /-- Whether every prompt shows the window. -/
  printing : Bool := true
  /-- How the last command went. -/
  status : Status := .done

namespace Session

/-- A session on an empty worksheet. -/
def start (e : Extent) : Session := ⟨{ extent := e }, ⟨1, 1⟩, true, .done⟩

/-- The number a window back, at least one. -/
def back (n : UInt32) : UInt32 := if n ≤ windowSize then 1 else n - windowSize

/-- The number a window on, unless that is beyond a limit. -/
def ahead (n limit : UInt32) : UInt32 :=
  if n.toNat + windowSize.toNat ≤ limit.toNat then n + windowSize else n

/-- The first cell of the window after it moved. -/
def scrolled (origin : Reference) (d : Direction) (e : Extent) : Reference :=
  match d with
  | .up => { origin with row := back origin.row }
  | .left => { origin with column := back origin.column }
  | .down => { origin with row := ahead origin.row e.rows }
  | .right => { origin with column := ahead origin.column e.cols }

/-- What the window shows. -/
def view (s : Session) : String :=
  s.sheet.show s.sheet.evaluate ⟨s.origin, windowSize, windowSize⟩

/-- What is printed before a command, given the tenths of a second that the last one took. -/
def prompt (s : Session) (tenths : Nat) : String :=
  (if s.printing then s.view else "") ++
    "[" ++ toString (tenths / 10) ++ "." ++ toString (tenths % 10) ++ "] (" ++ s.status.message ++
    ") > "

/-- The session after a command, and what the command prints. Nothing is left after the command to
quit. -/
def run (s : Session) (c : Command) : Option Session × String :=
  let s : Session := { s with status := .done }
  match c with
  | .quit => (none, "")
  | .help => (some s, Command.helpText)
  | .view => (some s, s.view)
  | .payload => (some s, s.sheet.payload)
  | .scroll d => (some { s with origin := scrolled s.origin d s.sheet.extent }, "")
  | .scrollTo r =>
    if s.sheet.extent.contains r then (some { s with origin := r }, "")
    else (some { s with status := .outOfRange }, "")
  | .printing enabled => (some { s with printing := enabled }, "")
  | .clearRow row =>
    let (sheet, payload) := s.sheet.clearRow row
    (some { s with sheet }, payload)
  | .clearColumn column =>
    let (sheet, payload) := s.sheet.clearColumn column
    (some { s with sheet }, payload)
  | .set r term =>
    let sheet := s.sheet.set r term
    match sheet.evaluate.outcomes.find? r with
    | some (.error e) => (some { s with sheet, status := .cellFailed e }, "")
    | _ => (some { s with sheet }, "")

/-- The session after a line of input, and what the line makes it print. -/
def step (s : Session) (line : String) : Option Session × String :=
  match Command.ofLine? line with
  | some c => s.run c
  | none => (some { s with status := .invalidCommand }, "")

/-- All that is printed for lines of input, each after the tenths of a second that the one before
it took. -/
def transcript (s : Session) (tenths : Nat) : List (String × Nat) → String
  | [] => s.prompt tenths
  | (line, next) :: lines =>
    match s.step line with
    | (some t, output) => s.prompt tenths ++ output ++ t.transcript next lines
    | (none, output) => s.prompt tenths ++ output

/-- The session in which the input of a program runs. -/
def ofArguments (args : List String) : Session :=
  start (({} : Settings).withArguments args).extent

end Session

end SharedSheet.Terminal
