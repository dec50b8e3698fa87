import CassetteGate.Config.Build
import CassetteGate.Config.Layout
import CassetteGate.Duration
import CassetteGate.Failure
import CassetteGate.Variables

/-!
# `Config.Basic` — the configuration of a run

A configuration is made once, from the environment and the command line, and handed to all parts
of a run.

## Contents
- **`Parallelism`** and **`Config`** with its defaults (`Config.make`).
- **`Config.ofEnvironment`**: a configuration from the variables that a run needs;
  `presubmitVariables` and `nightlyVariables` name them.
- **`Config.goTimeout`**, **`Config.processTimeout?`**: the two deadlines of a test process.
- **`Config.validate`**.
-/

namespace CassetteGate

/-- How many tests run at once. -/
structure Parallelism where
  /-- Within a process that runs whole packages. -/
  acceptance : UInt64
  /-- Processes of one test each while replaying. -/
  replayingJobs : UInt64
  /-- Processes of one test each while recording, when every test calls live services. -/
  recordingJobs : UInt64
  deriving DecidableEq

namespace Parallelism

/-- What is used when nothing else is said. -/
def standard : Parallelism := ⟨32, 16, 8⟩

/-- How many processes of one test each may run at once; at least one. -/
def jobs (p : Parallelism) : TestMode → UInt64
  | .replaying => max p.replayingJobs 1
  | .recording => max p.recordingJobs 1

end Parallelism

/-- The configuration of a run. -/
structure Config where
  /-- The provider version under test. -/
  version : ProviderVersion
  /-- The branch that the change is to be merged into. -/
  baseBranch : String
  /-- The build that executes the run. -/
  build : BuildIdentity
  /-- The bucket for logs. -/
  logBucket : String
  /-- The bucket for cassettes. -/
  cassetteBucket : String
  /-- The name of the check that statuses are posted under. -/
  checkName : String
  /-- How many tests run at once. -/
  parallelism : Parallelism
  /-- The deadline of a test process in seconds. -/
  timeoutSecs : UInt64
  /-- Where things lie on the build machine. -/
  layout : Layout
  /-- Variables that are passed on to every test process. -/
  testEnv : Variables
  deriving DecidableEq

/-! ## Making a configuration -/

/-- The variables that a presubmit run needs. -/
def presubmitVariables : List String :=
  ["GITHUB_TOKEN", "GOCACHE", "GOPATH", "GOOGLE_BILLING_ACCOUNT", "GOOGLE_CUST_ID",
   "GOOGLE_FIRESTORE_PROJECT", "GOOGLE_IDENTITY_USER", "GOOGLE_MASTER_BILLING_ACCOUNT",
   "GOOGLE_ORG", "GOOGLE_ORG_2", "GOOGLE_ORG_DOMAIN", "GOOGLE_PROJECT", "GOOGLE_PROJECT_NUMBER",
   "GOOGLE_REGION", "GOOGLE_SERVICE_ACCOUNT", "GOOGLE_PUBLIC_AVERTISED_PREFIX_DESCRIPTION",
   "GOOGLE_TPU_V2_VM_RUNTIME_VERSION", "GOOGLE_ZONE", "HOME", "PATH", "SA_KEY", "USER"]

/-- The variables that a nightly refresh needs. -/
def nightlyVariables : List String :=
  ["GOCACHE", "GOPATH", "GOOGLE_BILLING_ACCOUNT", "GOOGLE_CUST_ID", "GOOGLE_IDENTITY_USER",
   "GOOGLE_MASTER_BILLING_ACCOUNT", "GOOGLE_ORG", "GOOGLE_ORG_2", "GOOGLE_ORG_DOMAIN",
   "GOOGLE_PROJECT", "GOOGLE_PROJECT_NUMBER", "GOOGLE_REGION", "GOOGLE_SERVICE_ACCOUNT",
   "GOOGLE_PUBLIC_AVERTISED_PREFIX_DESCRIPTION", "GOOGLE_ZONE", "HOME", "PATH", "SA_KEY", "USER",
   "GITHUB_TOKEN_CLASSIC"]

/-- The bucket that nightly backups and logs go to. -/
def nightlyBucket : String := "vcr-nightly"

namespace Config

/-- A configuration with everything else at its default. -/
def make (version : ProviderVersion) (layout : Layout) (testEnv : Variables) : Config :=
  { version, layout, testEnv
    baseBranch := "main"
    build := .unknown
    logBucket := "ci-vcr-logs"
    cassetteBucket := "ci-vcr-cassettes"
    checkName := "VCR-test"
    parallelism := .standard
    timeoutSecs := 14400 }

/-- The configuration that an environment gives: it fails with the required variables that are
    not set, and passes on exactly the required ones. -/
def ofEnvironment (env : Variables) (required : List String) (version : ProviderVersion)
    (layout : Layout) : Except Failure Config :=
  let missing := required.filter fun name => !env.has name
  if missing.isEmpty then
    .ok (make version layout
      (.ofList (required.filterMap fun name => (env.get? name).map fun value => (name, value))))
  else .error (.missingVariables missing)

/-- The configuration with another base branch; an empty one changes nothing. -/
def withBaseBranch (c : Config) (branch : String) : Config :=
  if branch.isEmpty then c else { c with baseBranch := branch }

/-! ## Deadlines -/

/-- How long a test process may go on, for compiling and reporting, after its own deadline. -/
def processGrace : Duration := .ofSecs 600

/-- When a test process is killed from outside, if that moment can be expressed. -/
def processTimeout? (c : Config) : Option Duration :=
  (Duration.ofSecs c.timeoutSecs).add? processGrace

/-- The deadline that the test process is given itself: whole minutes if possible, else seconds. -/
def goTimeout (c : Config) : String :=
  if c.timeoutSecs.toNat % 60 = 0 then toString (c.timeoutSecs.toNat / 60) ++ "m"
  else toString c.timeoutSecs.toNat ++ "s"

/-! ## Further parts -/

/-- The service account key that the environment holds. -/
def serviceAccountKey? (c : Config) : Option String := c.testEnv.get? "SA_KEY"

/-- Refuses configurations that no run can be made with; the first fault counts. -/
def validate (c : Config) : Except Failure Unit :=
  if c.logBucket.isEmpty || c.cassetteBucket.isEmpty then
    .error (.invalidConfig "bucket names cannot be empty")
  else if c.timeoutSecs = 0 then .error (.invalidConfig "timeout must be positive")
  else if c.parallelism.acceptance = 0 then
    .error (.invalidConfig "acc_test_parallelism must be positive")
  else .ok ()

end Config

end CassetteGate
