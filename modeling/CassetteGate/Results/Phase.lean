import CassetteGate.Results.Basic

/-!
# `Results.Phase` — the outcome of one phase

A phase is one replay or one recording. Beside the reports of its tests it may carry an exit
error: a failed build, a timeout or a failing exit that no test line explains.

## Contents
- **`PhaseRun`**, and **`isClean`**: nothing failed, nothing crashed, no exit error.
- **`PhaseRun.merge`**: several runs as one phase; the first exit error is kept.
-/

namespace CassetteGate

/-- What one phase found out. -/
structure PhaseRun where
  /-- The reports of the tests. -/
  result : RunResult
  /-- A fault of the test process that no test explains. -/
  exitError : Option String
  deriving DecidableEq, Inhabited

namespace PhaseRun

/-- The run that reported nothing. -/
def empty : PhaseRun := ⟨.empty, none⟩

/-- A run without exit error. -/
def ofResult (r : RunResult) : PhaseRun := ⟨r, none⟩

/-- The run with an exit error put in. -/
def withError (run : PhaseRun) (reason : String) : PhaseRun := { run with exitError := some reason }

/-- Whether nothing failed, nothing crashed and the process gave no trouble. -/
def isClean (run : PhaseRun) : Bool :=
  run.result.failed.isEmpty && !run.result.crashed && run.exitError.isNone

/-- The run with another one taken in. -/
def absorb (run other : PhaseRun) : PhaseRun :=
  ⟨run.result.absorb other.result, run.exitError.or other.exitError⟩

/-- Several runs as one phase. -/
def merge (runs : List PhaseRun) : PhaseRun := runs.foldl absorb empty

end PhaseRun

end CassetteGate
