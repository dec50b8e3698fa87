import CassetteGate.Cli.Commands
import CassetteGate.Forms.Machine
import CassetteGate.Json.Reader

/-!
# `Main` — the command line on a machine held in memory

The machine that a command line works on is described by one line of JSON on standard input: its
variables, its files below `/work`, and how its programs answer. What the command prints goes to
standard output and what it complains of to standard error.
-/

namespace CassetteGate

/-- The description of a machine, and the date of a refresh. -/
def machineOfLine? (line : String) : Option (Sandbox × String) := do
  match ← Json.parse? (if line.isEmpty then "\x7b\x7d" else line) with
  | .obj fields =>
      let today : Option String ← Json.optionalField fields "today"
      return (← Sandbox.ofMembers? ["work"] fields, today.getD "1970-01-01")
  | _ => none

end CassetteGate

open CassetteGate in
/-- Carries out a command line. -/
def main (args : List String) : IO UInt32 := do
  let input ← IO.getStdin
  match machineOfLine? (← input.getLine) with
  | none =>
      IO.eprintln "Error: the machine is not described by a line of JSON"
      return 1
  | some (machine, today) =>
      let answer := (machine.perform (Cli.run machine.env today args)).1
      answer.lines.forM IO.println
      match answer.complaint with
      | some complaint => IO.eprintln complaint.text
      | none => pure ()
      return answer.exitCode.toUInt32
