import CassetteGate.Pipeline.Collaborators
import CassetteGate.Report.Presubmit
import CassetteGate.Verdict

/-!
# `Pipeline.Presubmit` — the run for a change under review

1. The surface of the change is computed; if it is empty there is nothing to do.
2. Cassettes are fetched, and the status of the commit becomes pending.
3. The affected packages are replayed. After a crash, or if no test failed, the run ends here.
4. The failed tests are recorded. After a crash the run ends here.
5. If anything was recorded, the fresh cassettes are published and replayed once more.
6. The run is reported on, and the status of the commit becomes that of the verdict.

A failure of the stores or of the runner in steps 3 to 5 ends the run with a status of failure.

## Contents
- **`ChangeRequest`**, **`Outcome`**: what a run is given and what it returns.
- **`replayPackages`**, **`recordStage`**, **`confirmStage`**: the phases.
- **`presubmit`**: the run.
-/

namespace CassetteGate

/-- A change under review. -/
structure ChangeRequest where
  /-- The pull request. -/
  target : ReviewTarget
  /-- The paths that the change touches. -/
  changedFiles : List String
  /-- The change to the general provider. -/
  gaDiff : String
  /-- The change to the beta provider. -/
  betaDiff : String
  deriving DecidableEq

/-- What a run returns. -/
structure Outcome where
  /-- What it found out. -/
  state : RunState
  /-- Its judgement. -/
  verdict : Verdict
  /-- The comment on the pull request, if there is one. -/
  report : Option String
  deriving DecidableEq

namespace Presubmit

open Pipeline

/-! ## Parts of a run -/

/-- Uploads the logs of a phase. -/
def uploadPhaseLogs (config : Config) (target : ReviewTarget) (mode : TestMode)
    (parallel afterRecording : Bool) : Pipeline Unit :=
  uploadLogs
    { mode, parallel, afterRecording
      version := config.version
      destination := .review target.headRef config.build.buildId }

/-- Posts a status of the run. -/
def announce (config : Config) (target : ReviewTarget) (state : BuildState) : Pipeline Unit :=
  postStatus
    { target, state
      check := config.checkName
      targetUrl := config.build.statusUrl }

/-- Comments on the pull request and posts the status of the verdict. -/
def conclude (config : Config) (request : ChangeRequest) (state : RunState) :
    Pipeline (RunState × Option String) := do
  let report := Report.report? state (.of config request.target)
  match report with
  | some text => postReport request.target text
  | none => pure ()
  announce config request.target (Verdict.of state).buildState
  return (state, report)

/-- Runs the tests of each directory in turn. -/
def runEachDir (base : RunOptions) : List String → Pipeline (List PhaseRun)
  | [] => return []
  | dir :: dirs => do
      let run ← runTests { base with testDirs := [dir] }
      return run :: (← runEachDir base dirs)

/-- Runs each of some tests in a process of its own, as a phase of the run. -/
def parallelPhase (config : Config) (cassetteDir : Path) (mode : TestMode)
    (testDirs tests : List String) : Pipeline PhaseRun := do
  emit (.phaseStarted mode true tests.length)
  let run ← runEach { mode, cassetteDir, testDirs, tests, version := config.version }
  emit (.phaseFinished mode run)
  return run

/-! ## The phases -/

/-- The directories that a replay of the surface tests one by one; none on a full sweep. -/
def replayDirs (rules : SurfaceRules) (surface : ChangeSurface) : List String :=
  if surface.fullSweep then [] else surface.packages.toList.map rules.packageDir

/-- Replays every affected package, or the whole repository at once on a full sweep. -/
def replayPackages (config : Config) (rules : SurfaceRules) (surface : ChangeSurface)
    (cassetteDir : Path) : Pipeline PhaseRun := do
  let base : RunOptions :=
    { mode := .replaying, version := config.version, cassetteDir, testDirs := [], tests := [] }
  emit (.phaseStarted .replaying false 0)
  let replay ←
    if surface.fullSweep then runTests base
    else PhaseRun.merge <$> runEachDir base (replayDirs rules surface)
  emit (.phaseFinished .replaying replay)
  return replay

/-- Publishes what was recorded and replays it. -/
def confirmStage (config : Config) (request : ChangeRequest) (cassetteDir : Path)
    (state : RunState) (recorded : List String) : Pipeline (RunState × Option String) := do
  let head := request.target.headRef
  upload "cassette upload" cassetteDir (.head head) config.version
  emit (.cassettesUploaded head)
  let confirm ← parallelPhase config cassetteDir .replaying state.testDirs recorded
  uploadPhaseLogs config request.target .replaying true true
  if confirm.result.crashed then
    emit (.warning "provider crashed while replaying recorded cassettes")
  conclude config request
    { state with
      mode := .replaying
      cassettesUploaded := true
      confirm := some confirm
      terminal := some .done }

/-- Records the tests that failed in the replay. -/
def recordStage (config : Config) (request : ChangeRequest) (cassetteDir : Path)
    (state : RunState) (replayFailed : List String) : Pipeline (RunState × Option String) := do
  let record ← parallelPhase config cassetteDir .recording state.testDirs replayFailed
  uploadPhaseLogs config request.target .recording true false
  let state := { state with mode := .recording, record := some record }
  if record.result.crashed then
    emit (.warning "provider crashed while recording")
    conclude config request { state with terminal := some .recordPanicked }
  else if record.result.passed.isEmpty then
    emit (.warning "no tests passed in RECORDING mode, not uploading cassettes")
    conclude config request { state with terminal := some .done }
  else confirmStage config request cassetteDir state record.result.passed.toList

/-- Replays the surface and goes on from what that shows. -/
def replayStage (config : Config) (rules : SurfaceRules) (request : ChangeRequest)
    (surface : ChangeSurface) (cassetteDir : Path) : Pipeline (RunState × Option String) := do
  let replay ← replayPackages config rules surface cassetteDir
  uploadPhaseLogs config request.target .replaying false false
  let state :=
    { RunState.start surface with
      testDirs := replayDirs rules surface
      replay := some replay }
  if replay.result.crashed then
    emit (.warning "provider crashed while replaying")
    conclude config request { state with terminal := some .replayPanicked }
  else
    let state :=
      { state with
        unexercised := .of request.gaDiff request.betaDiff replay.result }
    if replay.result.failed.isEmpty then
      conclude config request { state with terminal := some .replayedClean }
    else recordStage config request cassetteDir state replay.result.failed.toList

/-! ## The run -/

/-- Emits a violation after the other. -/
def emitViolations : List String → Pipeline Unit
  | [] => return ()
  | v :: vs => do
      emit (.violation v)
      emitViolations vs

/-- The verdict that a finished run returns. -/
def finalVerdict (state : RunState) : Verdict :=
  if state.terminal = some .nothingToTest then .nothingToTest else .of state

/-- Emits the end of a run, and returns its outcome. -/
def finish (state : RunState) (report : Option String) : Pipeline Outcome := do
  let verdict := finalVerdict state
  match state.terminal with
  | some terminal => emit (.runFinished terminal verdict.passed)
  | none => pure ()
  emitViolations verdict.violations
  return { state, verdict, report }

/-- The part of a run that follows the fetch. A failure is announced and ends the run. -/
def afterFetch (config : Config) (rules : SurfaceRules) (request : ChangeRequest)
    (surface : ChangeSurface) (cassetteDir : Path) : Pipeline Outcome := do
  announce config request.target .pending
  let (state, report) ←
    tryCatch (replayStage config rules request surface cassetteDir) fun failure => do
      announce config request.target .failure
      throw failure
  finish state report

end Presubmit

open Pipeline Presubmit in
/-- The run for a change under review. -/
def presubmit (config : Config) (rules : SurfaceRules) (request : ChangeRequest) :
    Pipeline Outcome := do
  let surface := rules.surface request.changedFiles
  emit (.surfaceComputed surface.fullSweep surface.packages.size)
  if surface.isEmpty then
    emit (.note "no test-relevant files changed, skipping VCR")
    finish { RunState.start surface with terminal := some .nothingToTest } none
  else
    let cassetteDir ← fetch config.version config.baseBranch (some request.target.headRef)
    afterFetch config rules request surface cassetteDir

end CassetteGate
