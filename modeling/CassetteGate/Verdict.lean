import CassetteGate.State

/-!
# `Verdict` — whether a change passes

A run passes if its replay is clean. If tests failed in the replay, it passes if recording them
lost none and failed none, and everything that was recorded replays. A crash never passes.

## Contents
- **`violations`**: the reasons against passing, in the order of the phases.
- **`Verdict`** and **`Verdict.of`**.
-/

namespace CassetteGate

/-- The judgement on a run. -/
structure Verdict where
  /-- Whether the change passes. -/
  passed : Bool
  /-- The reasons why it does not. -/
  violations : List String
  /-- The judgement in one sentence. -/
  message : String
  deriving DecidableEq

namespace Verdict

/-- The status that goes with a verdict. -/
def buildState (v : Verdict) : BuildState := if v.passed then .success else .failure

/-- Reasons found in the replay of fresh cassettes. -/
def confirmViolations : Option PhaseRun → List String
  | none => ["Recorded tests were never replayed"]
  | some confirm =>
      if confirm.result.crashed then
        ["Provider crashed during REPLAYING mode after recording"]
      else
        (if confirm.result.failed.isEmpty then []
         else [toString confirm.result.failed.size
                ++ " test(s) are non-deterministic when replayed"])
        ++ (match confirm.exitError with
            | some e => ["REPLAYING mode error after recording: " ++ e]
            | none => [])

/-- Reasons found in the recording of `replayFailures` tests that failed, and after it. -/
def recordViolations (s : RunState) (replayFailures : Nat) : List String :=
  match s.record with
  | none =>
      [toString replayFailures ++ " test(s) failed in REPLAYING mode and were never recorded"]
  | some record =>
      if record.result.crashed then ["Provider crashed during RECORDING mode"]
      else
        (if record.result.failed.isEmpty then []
         else [toString record.result.failed.size ++ " test(s) failed in RECORDING mode"])
        ++ (if s.hasTerminatedTests then
              ["RECORDING mode accounted for "
                ++ toString (record.result.passed.size + record.result.failed.size) ++ " of "
                ++ toString replayFailures ++ " test(s)"]
            else [])
        ++ (match record.exitError with
            | some e => ["RECORDING mode error: " ++ e]
            | none => [])
        ++ (if record.result.passed.isEmpty then [] else confirmViolations s.confirm)

/-- All reasons against passing. -/
def violationsOf (s : RunState) : List String :=
  match s.replay with
  | none => ["Replay phase did not run"]
  | some replay =>
      if replay.result.crashed then ["Provider crashed during REPLAYING mode"]
      else if replay.result.failed.isEmpty then
        match replay.exitError with
        | some e => ["REPLAYING mode error: " ++ e]
        | none => []
      else recordViolations s replay.result.failed.size

/-- The verdict on a run. -/
def of (s : RunState) : Verdict :=
  let violations := violationsOf s
  { violations
    passed := violations.isEmpty
    message :=
      if violations.isEmpty then "All tests passed"
      else "VCR failed with " ++ toString violations.length ++ " violation(s)" }

/-- The verdict on a change that touches nothing that is tested. -/
def nothingToTest : Verdict := ⟨true, [], "Nothing to test"⟩

theorem passed_of (s : RunState) : (of s).passed = (of s).violations.isEmpty := rfl

end Verdict

end CassetteGate
