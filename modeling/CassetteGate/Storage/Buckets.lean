import CassetteGate.Pipeline.Collaborators

/-!
# `Storage.Buckets` — where cassettes and logs lie in the cloud

Cassettes come in layers, of which a later one overwrites an earlier one: those of the main
branch, those of the base branch if it is another one, and those recorded for the change itself.

## Contents
- **`Buckets`**: the buckets of an installation.
- **`Buckets.fetchSources`**: the layers of a change.
- **`Buckets.uploadDestination`**: where fresh cassettes go.
- **`Buckets.logCopies`**: what is copied where when logs are published.
-/

namespace CassetteGate

/-- The buckets of an installation. -/
structure Buckets where
  /-- For cassettes. -/
  cassettes : String
  /-- For the logs of changes under review. -/
  logs : String
  /-- For the backups and logs of nightly refreshes. -/
  nightly : String
  deriving DecidableEq, Inhabited

/-- The branch of the next major release, which does without the cassettes of the main branch. -/
def majorReleaseBranch : String := "FEATURE-BRANCH-major-release-6.0.0"

/-- One copy of log files. -/
structure LogCopy where
  /-- Whether the files are copied several at once. -/
  concurrent : Bool
  /-- The files. -/
  source : Path
  /-- The directory that they go to. -/
  destination : String
  deriving DecidableEq

namespace Buckets

/-- The buckets that a configuration names. -/
def ofConfig (config : Config) : Buckets := ⟨config.cassetteBucket, config.logBucket, nightlyBucket⟩

/-! ## Cassettes -/

/-- What the cassettes of a version lie below. -/
def cassetteRoot (b : Buckets) (version : ProviderVersion) : String :=
  "gs://" ++ b.cassettes ++ "/" ++ version.bucketPath

/-- The cassettes of the main branch. -/
def mainDir (b : Buckets) (version : ProviderVersion) : String :=
  b.cassetteRoot version ++ "fixtures/"

/-- The cassettes of another base branch. -/
def branchDir (b : Buckets) (version : ProviderVersion) (branch : String) : String :=
  b.cassetteRoot version ++ "refs/branches/" ++ branch ++ "/fixtures/"

/-- The cassettes of a change. -/
def headDir (b : Buckets) (version : ProviderVersion) (head : String) : String :=
  b.cassetteRoot version ++ "refs/heads/" ++ head ++ "/fixtures/"

/-- What a refresh leaves behind lies below this. -/
def nightlyRoot (b : Buckets) (version : ProviderVersion) (date buildId : String) : String :=
  "gs://" ++ b.nightly ++ "/" ++ version.name ++ "/" ++ date ++ "/" ++ buildId

/-- All files of a directory. -/
def allFiles (dir : String) : String := dir ++ "*"

/-- The layers of cassettes that a run starts from, in the order in which they are fetched. -/
def fetchSources (b : Buckets) (version : ProviderVersion) (baseBranch : String)
    (head : Option String) : List String :=
  (if baseBranch = majorReleaseBranch then [] else [allFiles (b.mainDir version)])
  ++ (if baseBranch = "main" then [] else [allFiles (b.branchDir version baseBranch)])
  ++ ((head.filter fun h => !h.isEmpty).map fun h => allFiles (b.headDir version h)).toList

/-- Where fresh cassettes go. -/
def uploadDestination (b : Buckets) (version : ProviderVersion) : UploadTarget → String
  | .head branch => b.headDir version branch
  | .main => b.mainDir version
  | .backup date buildId =>
      b.nightlyRoot version date buildId ++ "/main_cassettes_backup/fixtures/"

/-! ## Logs -/

/-- What the logs of a change lie below. -/
def reviewRoot (b : Buckets) (version : ProviderVersion) (head buildId : String) : String :=
  "gs://" ++ b.logs ++ "/" ++ version.name ++ "/refs/heads/" ++ head ++ "/artifacts/" ++ buildId
    ++ "/"

/-- The copies that publish the logs of a phase, in order. -/
def logCopies (b : Buckets) (layout : Layout) (u : LogUpload) : List LogCopy :=
  let mode := u.mode.lower
  let buildLog := layout.buildLog u.mode
  let workerLogs := layout.workerLogDir u.mode / "*"
  let debugLogs := layout.debugLogDir u.mode u.version / "*"
  match u.destination with
  | .review head buildId =>
      let root := b.reviewRoot u.version head buildId
      [⟨false, buildLog, root ++ "build-log/"⟩]
      ++ (if u.parallel then
            [⟨true, workerLogs, root ++ "build-log/" ++ mode ++ "_build" ++ u.suffix ++ "/"⟩]
          else [])
      ++ [⟨true, debugLogs, root ++ mode ++ u.suffix ++ "/"⟩]
  | .nightly date buildId =>
      let root := b.nightlyRoot u.version date buildId
      [⟨false, buildLog, root ++ "/logs/" ++ mode ++ "/"⟩,
       ⟨false, debugLogs, root ++ "/logs/build-log/"⟩]

end Buckets

/-! ## Copy commands -/

/-- The arguments of the command that copies cassettes. -/
def cassetteCopyArgs (source destination : String) : List String :=
  ["-m", "-q", "cp", source, destination]

/-- The arguments of the command that makes a copy of logs, which are shown as plain text. -/
def LogCopy.args (c : LogCopy) : List String :=
  ["-h", "Content-Type:text/plain"] ++ (if c.concurrent then ["-m"] else [])
  ++ ["-q", "cp", "-r", c.source.text, c.destination]

/-- The argument lists that publish the logs of a phase. -/
def Buckets.logCommands (b : Buckets) (layout : Layout) (u : LogUpload) : List (List String) :=
  (b.logCopies layout u).map LogCopy.args

end CassetteGate
