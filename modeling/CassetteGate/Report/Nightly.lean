import CassetteGate.Report.Presubmit

/-!
# `Report.Nightly` — the summaries of a nightly refresh

Plain text for the build log: one summary of the replay, and one of the recording if there was
one.
-/

namespace CassetteGate.Report

/-- The rule between the parts of a summary. -/
def banner : String := "#################################"

/-- A heading between two rules. -/
def bannered (heading : String) : Lines := [banner, heading, banner]

/-- A list of tests behind an empty line and a heading, if there are tests. -/
def testList (heading : String) (tests : NameSet) : Lines :=
  if tests.isEmpty then [] else "" :: heading :: tests.toList.map ("- " ++ ·)

/-- How the replay went in one line; nothing is said if all that happened is that tests failed. -/
def nightlyReplayStatus (replay : PhaseRun) : Option String :=
  match replay.exitError with
  | some e => some ("Errors occurred during REPLAYING mode: " ++ e ++ ".")
  | none =>
      if replay.result.failed.isEmpty then some "All tests passed in REPLAYING mode." else none

/-- What is said when the provider crashed. -/
def nightlyCrash (mode : TestMode) : String :=
  "The provider crashed while running the VCR tests in " ++ mode.upper ++ " mode"

/-- The summary of a replay. -/
def nightlyReplay (replay : PhaseRun) : Lines :=
  if replay.result.crashed then [nightlyCrash .replaying]
  else
    bannered "Tests Analytics"
    ++ ["",
        "Total tests: " ++ toString replay.result.total,
        "Passed tests: " ++ toString replay.result.passed.size,
        "Skipped tests: " ++ toString replay.result.skipped.size,
        "Affected tests: " ++ toString replay.result.failed.size]
    ++ testList "Affected tests list:" replay.result.failed
    ++ ["", banner]
    ++ (match nightlyReplayStatus replay with
        | some status => "" :: bannered status
        | none => [])

/-- How the recording went. -/
def nightlyRecordStatus (record : PhaseRun) (terminated : Bool) : Lines :=
  (if terminated then ["Several tests got terminated during RECORDING mode"] else [])
  ++ (match record.exitError with
      | some e => ["Errors occurred during RECORDING mode: " ++ e ++ "."]
      | none => [])
  ++ (if record.result.failed.isEmpty && !terminated && record.exitError.isNone then
        ["All tests passed!"]
      else [])

/-- The summary of a recording. -/
def nightlyRecord (record : PhaseRun) (terminated : Bool) : Lines :=
  if record.result.crashed then bannered (nightlyCrash .recording)
  else
    let status := nightlyRecordStatus record terminated
    bannered "RECORDING Tests Report"
    ++ testList "Tests passed during RECORDING mode:" record.result.passed
    ++ testList "Tests failed during RECORDING mode:" record.result.failed
    ++ (if status.isEmpty then [] else "" :: status)

end CassetteGate.Report
