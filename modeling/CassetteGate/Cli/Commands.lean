import CassetteGate.Cli.Complaint
import CassetteGate.Cli.Options
import CassetteGate.Pipeline.Nightly
import CassetteGate.Pipeline.OnHost
import CassetteGate.Pipeline.Presubmit
import CassetteGate.Release

/-!
# `Cli.Commands` — carrying out an order

Both commands make a configuration, install the service account key, do their run and remove the
key again, whatever became of the run. That the change under review does not pass is no failure of
the command; a crash of the provider in a nightly refresh is one.

## Contents
- **`CommandProgram`**, **`Printed`**: programs of commands, and what they print.
- **`presubmitProgram`**, **`nightlyProgram`**: the commands.
- **`Answer`**, **`run`**: a whole command line.
-/

namespace CassetteGate.Cli

/-- Programs of commands; a complaint ends them. -/
abbrev CommandProgram (α : Type) : Type := ExceptT Complaint (Program Host.Request.Answer) α

/-- What a command prints, and what it has to complain of afterwards. -/
structure Printed where
  /-- The lines. -/
  lines : List String
  /-- What went wrong although there is something to print. -/
  complaint : Option Complaint
  deriving DecidableEq

/-! ## Steps -/

/-- Asks the machine, and goes on whatever the answer is. -/
def ask (q : Host.Request) : CommandProgram q.Answer := ExceptT.lift (Host.ask q)

/-- Takes a step that may fail. -/
def orComplain {α ε : Type} (complaint : ε → Complaint) (p : HostProgram (Except ε α)) :
    CommandProgram α := do
  match ← ExceptT.lift p with
  | .ok a => return a
  | .error e => throw (complaint e)

/-- Goes on with a value, if there is one. -/
def accept {α : Type} (message : String) : Except Failure α → CommandProgram α
  | .ok a => return a
  | .error f => throw (.ofFailure message f)

/-- Reads a file that was named. -/
def readFile (p : Path) : CommandProgram String :=
  orComplain (.ofSystem ("Failed to read " ++ p.text)) (Host.ask (.readFile p))

/-- Reads a file if one was named; otherwise there is no text. -/
def readOptional : Option Path → CommandProgram String
  | some p => readFile p
  | none => return ""

/-! ## What a change touches -/

/-- A command in the checkout of the provider. -/
def gitCommand (config : Config) (args : List String) : Command :=
  { Command.ofProgram "git" with
    args
    cwd := some config.layout.repoPath }

/-- Runs a command; that it cannot be started is a fault of the runner. -/
def runGit (message : String) (c : Command) : CommandProgram CommandOutput :=
  orComplain (.ofRunner message) (Runner.execute c).run

/-- The paths in which the generated branch of a change differs from the one that its base branch
    generates. If the latter cannot be fetched, what is there is compared. -/
def changedPaths (config : Config) (target : ReviewTarget) : CommandProgram (List String) := do
  let head := target.headRef
  let old := head ++ "-old"
  let _ ← runGit "Failed to run git fetch"
    (gitCommand config ["fetch", "origin", old ++ ":" ++ old, "--depth", "1"])
  let output ← runGit "Failed to run git diff"
    (gitCommand config ["diff", head, old, "--name-only"])
  if output.success then return Text.entries output.stdout
  else throw ⟨"git diff failed: " ++ Text.trimmed output.stderr, []⟩

/-- The paths that a change touches, from a file if one was named. -/
def changedFilesOf (config : Config) (options : PresubmitOptions) :
    CommandProgram (List String) := do
  match options.changedFiles with
  | some p => return Text.entries (← readFile p)
  | none => changedPaths config options.target

/-! ## Commands -/

/-- Does a run with the service account key in place. -/
def withCredentials {α : Type} (runner : Runner) (message : String)
    (p : HostProgram (Except Failure α)) : CommandProgram α := do
  let _ ← orComplain (.ofRunner "Failed to install service account key")
    runner.installCredentials.run
  let result ← ExceptT.lift p
  let _ ← ExceptT.lift runner.cleanup.run
  accept message result

/-- The command for pull requests: it prints the report. -/
def presubmitProgram (env : Variables) (options : PresubmitOptions) : CommandProgram Printed := do
  let made ← accept "Environment is not set up for VCR tests"
    (Config.ofEnvironment env presubmitVariables options.version options.places.layout)
  let config := { made.withBaseBranch options.baseBranch with build := options.build }
  accept "Invalid VCR configuration" config.validate
  let request : ChangeRequest :=
    { target := options.target
      changedFiles := ← changedFilesOf config options
      gaDiff := ← readOptional options.gaDiff
      betaDiff := ← readOptional options.betaDiff }
  let collaborators := Collaborators.ofConfig config
  let outcome ← withCredentials collaborators.runner "VCR run aborted"
    (collaborators.perform (presubmit config (.forVersion config.version) request))
  return ⟨outcome.report.toList, none⟩

/-- What there is to complain of after a nightly refresh. -/
def refreshComplaint (outcome : RefreshOutcome) : Option Complaint :=
  outcome.crashed.map fun mode =>
    ⟨"provider crashed while running the VCR tests in " ++ mode.upper ++ " mode", []⟩

/-- The command for the nightly refresh: it prints the summaries. -/
def nightlyProgram (env : Variables) (today : String) (options : NightlyOptions) :
    CommandProgram Printed := do
  let config ← accept "Environment is not set up for the cassette update"
    (Config.ofEnvironment env nightlyVariables .beta options.places.layout)
  accept "Invalid VCR configuration" config.validate
  let collaborators := Collaborators.ofConfig config
  let outcome ← withCredentials collaborators.runner "Cassette update aborted"
    (collaborators.perform (nightly config ⟨today, options.buildId⟩))
  return ⟨outcome.replaySummary :: outcome.recordSummary.toList, refreshComplaint outcome⟩

/-! ## Command lines -/

/-- What a command line comes to. -/
structure Answer where
  /-- The exit code. -/
  exitCode : UInt8
  /-- What is printed. -/
  lines : List String
  /-- What there is to complain of. -/
  complaint : Option Complaint
  deriving DecidableEq

/-- What is printed when help is asked for. -/
def usage : List String :=
  ["Usage: " ++ Release.name ++ " [OPTIONS] <COMMAND>", "", "Commands:",
   "  " ++ presubmitCommand ++ "   Run VCR tests for a pull request and report the result on it",
   "  " ++ nightlyCommand ++ "  Refresh the shared cassettes nightly"]

/-- The answer to a command line that gives no order. -/
def stopped : Stop → Answer
  | .help => ⟨0, usage, none⟩
  | .version => ⟨0, [Release.banner], none⟩
  | .misuse => ⟨2, [], none⟩

/-- Carries out an order. -/
def carryOut (env : Variables) (today : String) : Order → CommandProgram Printed
  | .presubmit options => presubmitProgram env options
  | .nightly options => nightlyProgram env today options

/-- Carries out a command line; `today` is the date of a refresh. -/
def run (env : Variables) (today : String) (args : List String) : HostProgram Answer := do
  match Order.read env args with
  | .error stop => return stopped stop
  | .ok order =>
      match ← (carryOut env.reread today order).run with
      | .ok printed =>
          return ⟨if printed.complaint.isSome then 1 else 0, printed.lines, printed.complaint⟩
      | .error complaint => return ⟨1, [], some complaint⟩

end CassetteGate.Cli
