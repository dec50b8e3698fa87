import CassetteGate.Command
import CassetteGate.Results.Phase
import CassetteGate.TestLog

/-!
# `Results.Exit` — what a finished process says about its phase

A process that fails because tests failed, or because the provider crashed, is accounted for by
its log. Any other failing exit is an error of the phase.

## Contents
- **`unexplainedExit?`**: the part of an exit that the reports do not explain.
- **`PhaseRun.ofOutput`**: the phase that one process makes.
-/

namespace CassetteGate

/-- Why a process failed, unless the reports in its log account for it. A timeout counts before
    all else, and a failed build or set-up counts whatever the tests say. -/
def unexplainedExit? (output : CommandOutput) (parsed : RunResult) : Option String :=
  if output.timedOut then
    some ("timed out after " ++ toString (output.durationMs.toNat / 1000) ++ "s")
  else if output.success then none
  else if Text.contains output.combined "[build failed]" then some "build failed"
  else if Text.contains output.combined "[setup failed]" then some "setup failed"
  else if !parsed.failed.isEmpty || parsed.crashed then none
  else
    match output.exitCode with
    | some code => some ("exit status " ++ toString code.toInt)
    | none => some "terminated by signal"

/-- The phase that a single process makes. -/
def PhaseRun.ofOutput (output : CommandOutput) : PhaseRun :=
  let result := TestLog.parse output.combined
  ⟨result, unexplainedExit? output result⟩

end CassetteGate
