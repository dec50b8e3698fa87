import CassetteGate.Pipeline.Collaborators

/-!
# `Pipeline.Transcript` — the exchanges of a run, by kind

A transcript lists the exchanges of a run in order. What a run did is read off it: which tests it
had run, what it fetched and published, what it posted and which events it emitted.

## Contents
- **`Transcript`**, and the requests of each kind from **`runnerCalls`** to **`events`**.
-/

namespace CassetteGate

/-- A request to the runner. -/
structure RunnerCall where
  /-- Whether each test is to run in a process of its own. -/
  parallel : Bool
  /-- What to run. -/
  options : RunOptions
  deriving DecidableEq

/-- A request for cassettes. -/
structure FetchCall where
  /-- The provider version. -/
  version : ProviderVersion
  /-- The branch that the change is to be merged into. -/
  baseBranch : String
  /-- The branch of the change. -/
  head : Option String
  deriving DecidableEq

/-- A request to publish cassettes. -/
structure UploadCall where
  /-- The directory that they are in. -/
  source : Path
  /-- Where they go. -/
  target : UploadTarget
  /-- The provider version. -/
  version : ProviderVersion
  deriving DecidableEq

/-- The exchanges of a run, in order. -/
abbrev Transcript : Type := List (Exchange Pipeline.Request.Answer)

namespace Transcript

open Pipeline

/-- The requests to the runner. -/
def runnerCalls (t : Transcript) : List RunnerCall :=
  t.filterMap fun e =>
    match e.request with
    | .runTests options => some ⟨false, options⟩
    | .runEach options => some ⟨true, options⟩
    | _ => none

/-- The requests for cassettes. -/
def fetches (t : Transcript) : List FetchCall :=
  t.filterMap fun e =>
    match e.request with
    | .fetch version baseBranch head => some ⟨version, baseBranch, head⟩
    | _ => none

/-- The requests to publish cassettes. -/
def uploads (t : Transcript) : List UploadCall :=
  t.filterMap fun e =>
    match e.request with
    | .upload source target version => some ⟨source, target, version⟩
    | _ => none

/-- The requests to publish logs. -/
def logUploads (t : Transcript) : List LogUpload :=
  t.filterMap fun e =>
    match e.request with
    | .uploadLogs logs => some logs
    | _ => none

/-- The comments. -/
def reports (t : Transcript) : List String :=
  t.filterMap fun e =>
    match e.request with
    | .postReport _ text => some text
    | _ => none

/-- The statuses. -/
def statuses (t : Transcript) : List StatusPost :=
  t.filterMap fun e =>
    match e.request with
    | .postStatus post => some post
    | _ => none

/-- The events. -/
def events (t : Transcript) : List Event :=
  t.filterMap fun e =>
    match e.request with
    | .emit event => some event
    | _ => none

end Transcript

end CassetteGate
