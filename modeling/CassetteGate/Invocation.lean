import CassetteGate.Command
import CassetteGate.Config.Basic
import CassetteGate.Config.Secrets

/-!
# `Invocation` — the test processes of a run

Acceptance tests are run with `go test`, either all tests of some packages in one process, or one
test of one package.

## Contents
- **`vcrSettings`**: the variables that tell the provider what to do with its cassettes.
- **`testVariables`**: all variables of a test process; the settings win.
- **`packageRun?`**, **`singleTestRun?`**: the two kinds of process. There is none if the deadline
  at which it would be killed cannot be expressed.
- **`Command.logged`**: what is logged about a process before it is started.
-/

namespace CassetteGate

/-- The settings of a test process. -/
def vcrSettings (config : Config) (mode : TestMode) (cassetteDir : Path) (testDirs : List String)
    (parallelism : UInt64) : List (String × String) :=
  [("VCR_PATH", cassetteDir.text),
   ("VCR_MODE", mode.upper),
   ("ACCTEST_PARALLELISM", toString parallelism.toNat),
   ("GOOGLE_CREDENTIALS", config.serviceAccountKey?.getD ""),
   ("GOOGLE_APPLICATION_CREDENTIALS", config.layout.keyFile.text),
   ("GOOGLE_TEST_DIRECTORY", " ".intercalate testDirs),
   ("TF_LOG", "DEBUG"),
   ("TF_LOG_SDK_FRAMEWORK", "INFO"),
   ("TF_LOG_PATH_MASK", (config.layout.debugLogMask mode config.version).text),
   ("TF_ACC", "1"),
   ("TF_SCHEMA_PANIC_ON_ERROR", "1")]

/-- The names of the settings. -/
def vcrSettingNames : List String :=
  ["VCR_PATH", "VCR_MODE", "ACCTEST_PARALLELISM", "GOOGLE_CREDENTIALS",
   "GOOGLE_APPLICATION_CREDENTIALS", "GOOGLE_TEST_DIRECTORY", "TF_LOG", "TF_LOG_SDK_FRAMEWORK",
   "TF_LOG_PATH_MASK", "TF_ACC", "TF_SCHEMA_PANIC_ON_ERROR"]

theorem map_fst_vcrSettings (config : Config) (mode : TestMode) (cassetteDir : Path)
    (testDirs : List String) (parallelism : UInt64) :
    (vcrSettings config mode cassetteDir testDirs parallelism).map Prod.fst = vcrSettingNames :=
  rfl

/-- The variables of a test process: those passed on, with the settings over them. -/
def testVariables (config : Config) (mode : TestMode) (cassetteDir : Path)
    (testDirs : List String) (parallelism : UInt64) : Variables :=
  config.testEnv.setAll (vcrSettings config mode cassetteDir testDirs parallelism)

/-- The options of a test process that runs the tests matching `pattern`. -/
def testFlags (config : Config) (parallelism : UInt64) (pattern : String) : List String :=
  ["-parallel", toString parallelism.toNat, "-v", "-run=" ++ pattern, "-timeout", config.goTimeout,
   "-ldflags=-X=" ++ config.version.modulePath ++ "/version.ProviderVersion=acc", "-vet=off"]

/-- A test process for some packages. -/
def testCommand (config : Config) (program : String) (mode : TestMode) (testDirs : List String)
    (cassetteDir : Path) (parallelism : UInt64) (pattern : String) (deadline : Duration) :
    Command :=
  { program
    args := "test" :: testDirs ++ testFlags config parallelism pattern
    env := testVariables config mode cassetteDir testDirs parallelism
    cwd := some config.layout.repoPath
    timeout := some deadline }

/-- All acceptance tests of some packages in one process. -/
def packageRun? (config : Config) (program : String) (mode : TestMode) (testDirs : List String)
    (cassetteDir : Path) : Option Command :=
  config.processTimeout?.map
    (testCommand config program mode testDirs cassetteDir config.parallelism.acceptance "TestAcc")

/-- One test of one package, with nothing beside it. -/
def singleTestRun? (config : Config) (program : String) (mode : TestMode) (testDir test : String)
    (cassetteDir : Path) : Option Command :=
  config.processTimeout?.map
    (testCommand config program mode [testDir] cassetteDir 1 (test ++ "$"))

/-- What is logged about a process before it is started. -/
structure LoggedCommand where
  /-- The command line. -/
  display : String
  /-- The variables, secrets blotted out. -/
  env : Variables
  deriving DecidableEq

/-- The log entry of a command. -/
def Command.logged (c : Command) : LoggedCommand := ⟨c.display, redact c.env⟩

end CassetteGate
