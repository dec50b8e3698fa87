import CassetteGate.Duration
import CassetteGate.Path
import CassetteGate.Variables

/-!
# `Command` — processes to start, and what became of them

## Contents
- **`Command`**: program, arguments, variables, directory and deadline of a process.
- **`CommandOutput`**: what a process printed and how it ended.
- **`CommandOutput.combined`**: both output streams as one text.
-/

namespace CassetteGate

/-- A process to start. -/
structure Command where
  /-- The program. -/
  program : String
  /-- Its arguments. -/
  args : List String
  /-- Variables set on top of the inherited ones. -/
  env : Variables
  /-- The directory to start in, if not the current one. -/
  cwd : Option Path
  /-- When the process is killed. -/
  timeout : Option Duration
  deriving DecidableEq

namespace Command

/-- A program without arguments. -/
def ofProgram (program : String) : Command := ⟨program, [], .empty, none, none⟩

/-- The command with more arguments at the end. -/
def addArgs (c : Command) (args : List String) : Command := { c with args := c.args ++ args }

/-- The command with more variables, which win over those it has. -/
def addEnv (c : Command) (env : Variables) : Command := { c with env := c.env.setAll env.toList }

/-- The command as it is shown in logs. -/
def display (c : Command) : String := " ".intercalate (c.program :: c.args)

end Command

/-- What became of a process. -/
structure CommandOutput where
  /-- The exit code; none if the process was killed. -/
  exitCode : Option Int32
  /-- What it printed on standard output. -/
  stdout : String
  /-- What it printed on standard error. -/
  stderr : String
  /-- How long it ran. -/
  durationMs : UInt64
  /-- Whether it was killed at its deadline. -/
  timedOut : Bool
  deriving DecidableEq

namespace CommandOutput

/-- Whether the process ended of its own accord and without complaint. -/
def success (o : CommandOutput) : Bool := !o.timedOut && o.exitCode == some 0

/-- Both streams as one text: standard error starts on a line of its own. -/
def combined (o : CommandOutput) : String :=
  if o.stderr.isEmpty then o.stdout
  else if o.stdout.isEmpty || Text.endsWith o.stdout "\n" then o.stdout ++ o.stderr
  else o.stdout ++ "\n" ++ o.stderr

end CommandOutput

end CassetteGate
