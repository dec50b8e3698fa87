import CassetteGate.Mode
import CassetteGate.Path
import CassetteGate.Provider

/-!
# `Config.Layout` — where cassettes, logs and credentials lie

Everything that a run reads or writes on the build machine lies at a fixed place below its base
directory; only the checkout of the provider is somewhere of its own.
-/

namespace CassetteGate

/-- The directories of a build machine. -/
structure Layout where
  /-- The working directory of the run. -/
  baseDir : Path
  /-- The checkout of the generated provider. -/
  repoPath : Path
  deriving DecidableEq, Inhabited

namespace Layout

/-- Where the cassettes of a version are. -/
def cassetteDir (l : Layout) (v : ProviderVersion) : Path := l.baseDir / "cassettes" / v.name

/-- What all logs lie below. -/
def logRoot (l : Layout) : Path := l.baseDir / "testlogs"

/-- The debug logs that the provider writes, one per test. -/
def debugLogDir (l : Layout) (m : TestMode) (v : ProviderVersion) : Path :=
  l.logRoot / m.lower / v.name

/-- The file name pattern of the debug logs, with `%s` for the test. -/
def debugLogMask (l : Layout) (m : TestMode) (v : ProviderVersion) : Path :=
  l.debugLogDir m v / "%s.log"

/-- The combined output of the test processes of a mode. -/
def buildLog (l : Layout) (m : TestMode) : Path := l.logRoot / (m.lower ++ "_test.log")

/-- The output of single-test processes, one file per test. -/
def workerLogDir (l : Layout) (m : TestMode) : Path := l.logRoot / (m.lower ++ "_build")

/-- The output of the single-test processes of one test. -/
def workerLog (l : Layout) (m : TestMode) (test : String) : Path :=
  l.workerLogDir m / (test ++ "_" ++ m.lower ++ "_test.log")

/-- The service account key. -/
def keyFile (l : Layout) : Path := l.baseDir / "sa_key.json"

end Layout

end CassetteGate
