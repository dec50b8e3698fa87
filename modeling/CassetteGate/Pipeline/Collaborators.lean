import CassetteGate.Config.Basic
import CassetteGate.Event
import CassetteGate.Pipeline.Faults
import CassetteGate.Program.Basic

/-!
# `Pipeline.Collaborators` — what a run asks of others

A run decides what has to be done and leaves the doing to its collaborators: a runner for tests,
stores for cassettes and logs, and a review platform. Its requests to them, and the events it
emits on the way, are the requests of one kind of program.

## Contents
- **`RunOptions`**, **`UploadTarget`**, **`LogUpload`**, **`StatusPost`**: what requests carry.
- **`Request`**, **`Request.Answer`**: the requests and their answers.
- **`Pipeline`**: programs with these requests; a failure ends them.
- One operation per request, from **`runTests`** to **`emit`**.
-/

namespace CassetteGate

/-! ## What requests carry -/

/-- Which tests to run, and how. -/
structure RunOptions where
  /-- What to do with the requests of the tests. -/
  mode : TestMode
  /-- The provider version under test. -/
  version : ProviderVersion
  /-- Where the cassettes are. -/
  cassetteDir : Path
  /-- The packages to test; all of the repository if there are none. -/
  testDirs : List String
  /-- The tests to run one by one. -/
  tests : List String
  deriving DecidableEq

/-- Where cassettes are published. -/
inductive UploadTarget where
  /-- For later runs of the same change. -/
  | head (branch : String)
  /-- For all runs. -/
  | main
  /-- In a copy that is kept of a day's cassettes. -/
  | backup (date buildId : String)
  deriving DecidableEq

/-- Where logs are published. -/
inductive LogDestination where
  /-- With the build of a change. -/
  | review (head buildId : String)
  /-- With a nightly refresh. -/
  | nightly (date buildId : String)
  deriving DecidableEq

/-- The logs of one phase. -/
structure LogUpload where
  /-- The mode of the phase. -/
  mode : TestMode
  /-- The provider version under test. -/
  version : ProviderVersion
  /-- Where the logs go. -/
  destination : LogDestination
  /-- Whether the phase ran one process per test. -/
  parallel : Bool
  /-- Whether the phase was the replay of fresh cassettes. -/
  afterRecording : Bool
  deriving DecidableEq

/-- What is put behind the names of the logs of a replay of fresh cassettes. -/
def LogUpload.suffix (u : LogUpload) : String :=
  if u.afterRecording then "_after_recording" else ""

/-- A status to show on a commit. -/
structure StatusPost where
  /-- The pull request and the commit. -/
  target : ReviewTarget
  /-- The name of the check. -/
  check : String
  /-- The status. -/
  state : BuildState
  /-- Where the status links to. -/
  targetUrl : String
  deriving DecidableEq

namespace Pipeline

/-! ## Requests -/

/-- What a run asks of its collaborators, and the events it emits. -/
inductive Request where
  /-- Run all tests of some packages in one process. -/
  | runTests (options : RunOptions)
  /-- Run each of some tests in a process of its own. -/
  | runEach (options : RunOptions)
  /-- Bring cassettes here. -/
  | fetch (version : ProviderVersion) (baseBranch : String) (head : Option String)
  /-- Publish cassettes. -/
  | upload (source : Path) (target : UploadTarget) (version : ProviderVersion)
  /-- Publish logs. -/
  | uploadLogs (logs : LogUpload)
  /-- Comment on the pull request. -/
  | postReport (target : ReviewTarget) (text : String)
  /-- Show a status on the commit. -/
  | postStatus (post : StatusPost)
  /-- Emit an event. -/
  | emit (event : Event)

/-- The answers to requests. -/
@[reducible] def Request.Answer : Request → Type
  | .runTests _ => Except RunnerFault PhaseRun
  | .runEach _ => Except RunnerFault PhaseRun
  | .fetch _ _ _ => Except ServiceFault Path
  | .upload _ _ _ => Except ServiceFault Unit
  | .uploadLogs _ => Except ServiceFault Unit
  | .postReport _ _ => Except ServiceFault Unit
  | .postStatus _ => Except ServiceFault Unit
  | .emit _ => Unit

end Pipeline

/-- A part of a run; a failure ends the run. -/
abbrev Pipeline (α : Type) : Type := ExceptT Failure (Program Pipeline.Request.Answer) α

namespace Pipeline

/-- Asks, and goes on whatever the answer is. -/
def ask (q : Request) : Pipeline q.Answer := ExceptT.lift (Program.request q)

/-- Emits an event. -/
def emit (event : Event) : Pipeline Unit := ask (.emit event)

/-- Runs all tests of some packages in one process. -/
def runTests (options : RunOptions) : Pipeline PhaseRun := do
  match ← ask (.runTests options) with
  | .ok run => return run
  | .error e => throw (.ofRunner e)

/-- Runs each of some tests in a process of its own. -/
def runEach (options : RunOptions) : Pipeline PhaseRun := do
  match ← ask (.runEach options) with
  | .ok run => return run
  | .error e => throw (.ofRunner e)

/-- Brings cassettes here. -/
def fetch (version : ProviderVersion) (baseBranch : String) (head : Option String) :
    Pipeline Path := do
  match ← ask (.fetch version baseBranch head) with
  | .ok dir => return dir
  | .error e => throw (.setup "cassette fetch" e.message)

/-- Publishes cassettes; the run is given up if that fails, at the stage it is named. -/
def upload (stage : String) (source : Path) (target : UploadTarget) (version : ProviderVersion) :
    Pipeline Unit := do
  match ← ask (.upload source target version) with
  | .ok () => return ()
  | .error e => throw (.setup stage e.message)

/-- Warns that something on the side failed. -/
def sideEffectFailed (action : String) (e : ServiceFault) : Pipeline Unit :=
  emit (.sideEffectFailed action e.message)

/-- Publishes cassettes if that can be done, and tells whether it could. -/
def tryUpload (source : Path) (target : UploadTarget) (version : ProviderVersion) :
    Pipeline Bool := do
  match ← ask (.upload source target version) with
  | .ok () => return true
  | .error e =>
      sideEffectFailed "cassette upload" e
      return false

/-- Publishes logs if that can be done. -/
def uploadLogs (logs : LogUpload) : Pipeline Unit := do
  match ← ask (.uploadLogs logs) with
  | .ok () => return ()
  | .error e => sideEffectFailed "log upload" e

/-- Comments on the pull request if that can be done. -/
def postReport (target : ReviewTarget) (text : String) : Pipeline Unit := do
  match ← ask (.postReport target text) with
  | .ok () => return ()
  | .error e => sideEffectFailed "report post" e

/-- Shows a status on the commit if that can be done. -/
def postStatus (post : StatusPost) : Pipeline Unit := do
  match ← ask (.postStatus post) with
  | .ok () => emit (.statusPosted post.state)
  | .error e => sideEffectFailed "status post" e

end Pipeline

end CassetteGate
