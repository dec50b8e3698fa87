import CassetteGate.Results.Exit
import CassetteGate.Runner.Basic

/-!
# `Runner.Phases` — running a phase

A phase runs all tests of some packages in one process, or each of some tests of each package in a
process of its own. The single-test processes run beside each other and finish in any order; what
is made of them, and the log that is kept of the phase, is in the order in which they were given.

## Contents
- **`Runner.runPackages`**: one process.
- **`Runner.workers?`**: the single-test processes, package by package.
- **`inOrder`**, **`phaseOf`**, **`combinedLog`**: what finished processes make.
- **`Runner.runTests`**: single-test processes.
-/

namespace CassetteGate.Runner

/-! ## One process -/

/-- Runs all tests of the packages of a phase in one process. -/
def runPackages (r : Runner) (options : RunOptions) : RunnerProgram PhaseRun := do
  let packages ← r.prepare options
  match packageRun? r.config r.program options.mode packages options.cassetteDir with
  | none => throw .deadlineOverflow
  | some command =>
      ask (.log (.command command.logged))
      let output ← execute command
      onFiles (Host.appendLog (r.config.layout.buildLog options.mode) output.combined)
      return PhaseRun.ofOutput output

/-! ## Single tests -/

/-- Every test of a phase in each of some packages, package by package. -/
def pairs (packages tests : List String) : List (String × String) :=
  packages.flatMap fun package => tests.map fun test => (package, test)

/-- The worker for one test of one package. -/
def worker? (r : Runner) (options : RunOptions) (pair : String × String) : Option Worker :=
  (singleTestRun? r.config r.program options.mode pair.1 pair.2 options.cassetteDir).map
    fun command => ⟨command, r.config.layout.workerLog options.mode pair.2⟩

/-- The workers of a phase, one for each test in each package. There are none if the deadline of
    any cannot be expressed. -/
def workers? (r : Runner) (options : RunOptions) (packages : List String) :
    Option (List Worker) :=
  (pairs packages options.tests).mapM (r.worker? options)

/-- The outputs of workers that have finished, in the order in which they were given. -/
def inOrder (finished : List Finished) : List CommandOutput :=
  (finished.mergeSort fun a b => a.index ≤ b.index).map Finished.output

/-- The phase that processes make. -/
def phaseOf (outputs : List CommandOutput) : PhaseRun :=
  PhaseRun.merge (outputs.map PhaseRun.ofOutput)

/-- The log that is kept of processes. -/
def combinedLog (outputs : List CommandOutput) : String :=
  String.join (outputs.map CommandOutput.combined)

/-- The fault that a worker's makes. -/
def faultOf (r : Runner) : WorkerFault → RunnerFault
  | .launch cause => .launch r.program cause
  | .log cause => .file cause

/-- Runs each test of a phase in each of its packages in a process of its own. -/
def runTests (r : Runner) (options : RunOptions) : RunnerProgram PhaseRun := do
  let packages ← r.prepare options
  onFiles (Host.ask (.createDirectories (r.config.layout.workerLogDir options.mode)))
  match r.workers? options packages with
  | none => throw .deadlineOverflow
  | some workers =>
      match ← ask (.runWorkers (r.config.parallelism.jobs options.mode) workers) with
      | .error fault => throw (r.faultOf fault)
      | .ok finished =>
          let outputs := inOrder finished
          onFiles (Host.ask
            (.writeFile (r.config.layout.buildLog options.mode) (combinedLog outputs)))
          return phaseOf outputs

end CassetteGate.Runner
