import CassetteGate.Pipeline.Collaborators
import CassetteGate.Report.Nightly

/-!
# `Pipeline.Nightly` — the nightly refresh of the shared cassettes

1. The cassettes of the main branch are fetched, and a copy of them is kept as the backup of the
   day.
2. All of the repository is replayed. After a crash, or if no test failed, the refresh ends here.
3. The failed tests are recorded. If anything passed, the cassettes are published for all runs.

There is nobody to report to: the summaries are returned for the build log.

## Contents
- **`RefreshRequest`**, **`RefreshOutcome`**: what a refresh is given and what it returns.
- **`RefreshOutcome.allPassed`**: whether all is well with the shared cassettes.
- **`Nightly.replay`**, **`Nightly.record`**, **`Nightly.publish`**: the steps.
- **`nightly`**: the refresh.
-/

namespace CassetteGate

/-- The refresh of a day. -/
structure RefreshRequest where
  /-- The day, as it stands in bucket paths. -/
  date : String
  /-- The build that runs the refresh. -/
  buildId : String
  deriving DecidableEq, Inhabited

/-- What a refresh returns. -/
structure RefreshOutcome where
  /-- The replay of all tests. -/
  replay : PhaseRun
  /-- The recording of those that failed. -/
  record : Option PhaseRun
  /-- The summary of the replay. -/
  replaySummary : String
  /-- The summary of the recording. -/
  recordSummary : Option String
  /-- Whether fresh cassettes were published. -/
  cassettesUploaded : Bool
  /-- The mode in which the provider crashed. -/
  crashed : Option TestMode
  deriving DecidableEq

namespace RefreshOutcome

/-- Whether the replay was clean, or else the recording repaired all that failed. -/
def allPassed (o : RefreshOutcome) : Bool :=
  o.crashed.isNone
    && match o.record with
      | none => o.replay.isClean
      | some record =>
          record.isClean && !RunResult.hasTerminatedTests o.replay.result record.result

end RefreshOutcome

namespace Nightly

open Pipeline

/-! ## Steps -/

/-- Uploads the logs of a phase. -/
def uploadPhaseLogs (config : Config) (request : RefreshRequest) (mode : TestMode)
    (parallel : Bool) : Pipeline Unit :=
  uploadLogs
    { mode, parallel
      version := config.version
      destination := .nightly request.date request.buildId
      afterRecording := false }

/-- Keeps a copy of the cassettes before anything can touch them. -/
def backUp (config : Config) (request : RefreshRequest) (cassetteDir : Path) : Pipeline Unit := do
  upload "cassette backup" cassetteDir (.backup request.date request.buildId) config.version
  emit (.backedUp request.date)

/-- Replays all tests of the repository. -/
def replay (config : Config) (request : RefreshRequest) (cassetteDir : Path) :
    Pipeline PhaseRun := do
  emit (.phaseStarted .replaying false 0)
  let run ← runTests
    { mode := .replaying, version := config.version, cassetteDir, testDirs := [], tests := [] }
  emit (.phaseFinished .replaying run)
  uploadPhaseLogs config request .replaying false
  return run

/-- Records some tests, wherever in the repository they are. -/
def record (config : Config) (request : RefreshRequest) (cassetteDir : Path)
    (tests : List String) : Pipeline PhaseRun := do
  emit (.phaseStarted .recording true tests.length)
  let run ← runEach
    { mode := .recording, version := config.version, cassetteDir, testDirs := [], tests }
  emit (.phaseFinished .recording run)
  uploadPhaseLogs config request .recording true
  return run

/-- Publishes the cassettes for all runs if anything passed, and tells whether it did. -/
def publish (config : Config) (cassetteDir : Path) (run : PhaseRun) : Pipeline Bool := do
  if run.result.passed.isEmpty then
    emit (.warning "no tests passed in RECORDING mode, not uploading cassettes")
    return false
  else tryUpload cassetteDir .main config.version

/-- What is known after the replay. -/
def replayOutcome (run : PhaseRun) : RefreshOutcome :=
  { replay := run
    record := none
    replaySummary := Report.text (Report.nightlyReplay run)
    recordSummary := none
    cassettesUploaded := false
    crashed := if run.result.crashed then some .replaying else none }

/-- What is known after the recording. -/
def recordOutcome (o : RefreshOutcome) (run : PhaseRun) (uploaded : Bool) : RefreshOutcome :=
  { o with
    record := some run
    recordSummary := some (Report.text (Report.nightlyRecord run
      (RunResult.hasTerminatedTests o.replay.result run.result)))
    cassettesUploaded := uploaded
    crashed := if run.result.crashed then some .recording else none }

/-- Records the tests that failed in the replay, and publishes what that made. -/
def repair (config : Config) (request : RefreshRequest) (cassetteDir : Path)
    (o : RefreshOutcome) : Pipeline RefreshOutcome := do
  let run ← record config request cassetteDir o.replay.result.failed.toList
  let uploaded ← publish config cassetteDir run
  if run.result.crashed then emit (.warning "provider crashed while recording")
  return recordOutcome o run uploaded

end Nightly

open Pipeline Nightly in
/-- The nightly refresh of the shared cassettes. -/
def nightly (config : Config) (request : RefreshRequest) : Pipeline RefreshOutcome := do
  let cassetteDir ← fetch config.version "main" none
  backUp config request cassetteDir
  let outcome := replayOutcome (← replay config request cassetteDir)
  if outcome.replay.result.crashed then
    emit (.warning "provider crashed while replaying")
    return outcome
  else if outcome.replay.result.failed.isEmpty then return outcome
  else repair config request cassetteDir outcome

end CassetteGate
