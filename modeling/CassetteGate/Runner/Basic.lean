import CassetteGate.Host.Request
import CassetteGate.Pipeline.Collaborators
import CassetteGate.Text.Lines

/-!
# `Runner.Basic` — the runner of acceptance tests, and what it does around a phase

The runner starts test processes in the checkout of the provider. Before a phase it finds out what
there is to test and makes the directories that the phase writes to; cassettes are removed only
when they are about to be recorded, and only once it is certain what is tested.

## Contents
- **`Runner`**, **`RunnerProgram`**.
- **`Runner.installCredentials`**, **`Runner.cleanup`**: the service account key.
- **`packagesOf`**, **`Runner.discover`**: the packages of the repository.
- **`Runner.prepare`**: what comes before every phase.
-/

namespace CassetteGate

/-- The runner of acceptance tests. -/
structure Runner where
  /-- The configuration of the run. -/
  config : Config
  /-- The program that runs tests. -/
  program : String
  deriving DecidableEq

/-- Programs of the runner; a fault ends them. -/
abbrev RunnerProgram (α : Type) : Type := ExceptT RunnerFault (Program Host.Request.Answer) α

namespace Runner

/-- The runner that uses the program of the Go language. -/
def ofConfig (config : Config) : Runner := ⟨config, "go"⟩

/-! ## Requests of the machine -/

/-- Asks the machine, and goes on whatever the answer is. -/
def ask (q : Host.Request) : RunnerProgram q.Answer := ExceptT.lift (Host.ask q)

/-- Does something with files; a refusal is a fault. -/
def onFiles {α : Type} (p : HostProgram (Except OsError α)) : RunnerProgram α := do
  match ← ExceptT.lift p with
  | .ok a => return a
  | .error e => throw (.file e)

/-- Runs a command; that it cannot be started is a fault. -/
def execute (c : Command) : RunnerProgram CommandOutput := do
  match ← ask (.execute c) with
  | .ok output => return output
  | .error e => throw (.launch c.program e)

/-! ## Credentials -/

/-- Writes the service account key to where test processes look for it. -/
def installCredentials (r : Runner) : RunnerProgram Path := do
  let file := r.config.layout.keyFile
  onFiles (Host.createParent file)
  onFiles (Host.ask (.writeFile file (r.config.serviceAccountKey?.getD "")))
  return file

/-- Removes the service account key; it need not be there. -/
def cleanup (r : Runner) : RunnerProgram Unit := do
  match ← ask (.removeFile r.config.layout.keyFile) with
  | .ok () => return ()
  | .error .notFound => return ()
  | .error e => throw (.file e)

/-! ## Packages -/

/-- Whether a line of a package listing names helper scripts, which are never tested. -/
def namesScripts (line : String) : Bool := Text.contains line "/scripts"

/-- The packages of a listing: its lines without the blanks around them, but for empty ones and
    those that name helper scripts. -/
def packagesOf (listing : String) : List String :=
  ((Text.entries listing).map Text.trimmed).filter fun line =>
    !line.isEmpty && !namesScripts line

/-- The command that lists the packages of the repository. -/
def listCommand (r : Runner) : Command :=
  { Command.ofProgram r.program with
    args := ["list", "./..."]
    cwd := some r.config.layout.repoPath }

/-- Every package of the repository but helper scripts. -/
def discover (r : Runner) : RunnerProgram (List String) := do
  let output ← execute r.listCommand
  if output.success then return packagesOf output.stdout
  else throw (.packageDiscovery (Text.trimmed output.stderr))

/-! ## Before a phase -/

/-- Empties a directory, and makes it if it is missing. -/
def resetDirectory (dir : Path) : RunnerProgram Unit := do
  match ← ask (.removeTree dir) with
  | .ok () => pure ()
  | .error .notFound => pure ()
  | .error e => throw (.file e)
  onFiles (Host.ask (.createDirectories dir))

/-- The packages that a phase tests. -/
def packagesUnderTest (r : Runner) (options : RunOptions) : RunnerProgram (List String) :=
  if options.testDirs.isEmpty then r.discover else return options.testDirs

/-- Prepares a phase, and returns the packages that it tests. -/
def prepare (r : Runner) (options : RunOptions) : RunnerProgram (List String) := do
  let repo := r.config.layout.repoPath
  if !(← ask (.isDirectory repo)) then throw (.repoNotConfigured repo)
  let packages ← r.packagesUnderTest options
  if options.mode = .recording then resetDirectory options.cassetteDir
  onFiles (Host.ask (.createDirectories
    (r.config.layout.debugLogDir options.mode options.version)))
  return packages

end Runner

end CassetteGate
