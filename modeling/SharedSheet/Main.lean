import SharedSheet.Terminal.Session

/-!
# The terminal program

Reads commands from standard input and prints to standard output. The arguments are the rows and
columns of the sheet.
-/

namespace SharedSheet.Terminal

/-- Prompts and runs commands until the input or the session ends. -/
partial def interact (s : Session) (start : Nat) : IO Unit := do
  let out ← IO.getStdout
  out.putStr (s.prompt (((← IO.monoMsNow) - start) / 100))
  out.flush
  let line ← (← IO.getStdin).getLine
  if line.isEmpty then return
  let start ← IO.monoMsNow
  let (next, output) := s.step line
  out.putStr output
  match next with
  | some s => interact s start
  | none => return

end SharedSheet.Terminal

/-- Runs a session on a sheet of the size that the arguments give. -/
def main (args : List String) : IO Unit := do
  SharedSheet.Terminal.interact (SharedSheet.Terminal.Session.ofArguments args) (← IO.monoMsNow)
