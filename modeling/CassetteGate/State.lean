import CassetteGate.AddedTests
import CassetteGate.Mode
import CassetteGate.Results.Phase
import CassetteGate.Surface

/-!
# `State` — what a presubmit run has found out

## Contents
- **`BuildState`**: the status shown on a commit.
- **`Terminal`**: where a run came to its end.
- **`RunState`**, with what can be read off it: `hasTerminatedTests`, `nonDeterministicTests`,
  `recordingClean`.
-/

namespace CassetteGate

/-- The status shown on a commit. -/
inductive BuildState where
  /-- The run is going on. -/
  | pending
  /-- The change passed. -/
  | success
  /-- The change did not pass. -/
  | failure
  deriving DecidableEq, Inhabited

/-- The word for a status. -/
def BuildState.name : BuildState → String
  | .pending => "pending"
  | .success => "success"
  | .failure => "failure"

/-- Where a run came to its end. -/
inductive Terminal where
  /-- The change touches nothing that is tested. -/
  | nothingToTest
  /-- The provider crashed while replaying. -/
  | replayPanicked
  /-- No test failed while replaying. -/
  | replayedClean
  /-- The provider crashed while recording. -/
  | recordPanicked
  /-- Failed tests were recorded, and what was recorded was replayed. -/
  | done
  deriving DecidableEq, Inhabited

namespace Terminal

/-- The name in events. -/
def title : Terminal → String
  | .nothingToTest => "NothingToTest"
  | .replayPanicked => "ReplayPanicked"
  | .replayedClean => "ReplayedClean"
  | .recordPanicked => "RecordPanicked"
  | .done => "Done"

/-- The name in stored states. -/
def tag : Terminal → String
  | .nothingToTest => "nothing_to_test"
  | .replayPanicked => "replay_panicked"
  | .replayedClean => "replayed_clean"
  | .recordPanicked => "record_panicked"
  | .done => "done"

end Terminal

/-- Everything that a run has found out so far. -/
structure RunState where
  /-- The mode of the phase that runs or ran last. -/
  mode : TestMode
  /-- What the change can affect. -/
  surface : ChangeSurface
  /-- The packages under test; none on a full sweep. -/
  testDirs : List String
  /-- The replay of the stored cassettes. -/
  replay : Option PhaseRun
  /-- The recording of the tests that failed. -/
  record : Option PhaseRun
  /-- The replay of the fresh cassettes. -/
  confirm : Option PhaseRun
  /-- Added tests that the replay does not vouch for. -/
  unexercised : UnexercisedTests
  /-- Whether fresh cassettes were published. -/
  cassettesUploaded : Bool
  /-- Where the run came to its end. -/
  terminal : Option Terminal
  deriving DecidableEq

namespace RunState

/-- The state of a run that has computed its surface. -/
def start (surface : ChangeSurface) : RunState :=
  { surface
    mode := .replaying
    testDirs := []
    replay := none
    record := none
    confirm := none
    unexercised := .none
    cassettesUploaded := false
    terminal := none }

/-- Whether recording accounted for fewer tests than replay handed it. -/
def hasTerminatedTests (s : RunState) : Bool :=
  match s.replay, s.record with
  | some replay, some record => RunResult.hasTerminatedTests replay.result record.result
  | _, _ => false

/-- Tests whose fresh cassettes did not replay. -/
def nonDeterministicTests (s : RunState) : List String :=
  match s.confirm with
  | some confirm => confirm.result.failed.toList
  | none => []

/-- Whether recording ran, nothing of it failed and no test was lost. -/
def recordingClean (s : RunState) : Bool :=
  match s.record with
  | some record => record.isClean && !s.hasTerminatedTests
  | none => false

end RunState

end CassetteGate
