import CassetteGate.Config.Basic

/-!
# `Report.Links` — where a report's links point

The logs of a presubmit run are uploaded below one directory of the log bucket. A report links to
single log files and to whole directories there.
-/

namespace CassetteGate

/-- What the links of a report are made of. -/
structure ReportContext where
  /-- The bucket that logs are uploaded to. -/
  logBucket : String
  /-- The provider version under test. -/
  version : ProviderVersion
  /-- The branch of the change. -/
  headRef : String
  /-- The build that runs the tests. -/
  buildId : String
  deriving DecidableEq, Inhabited

namespace ReportContext

/-- The context of the reports on a change. -/
def of (config : Config) (target : ReviewTarget) : ReportContext :=
  { logBucket := config.logBucket
    version := config.version
    headRef := target.headRef
    buildId := config.build.buildId }

/-- The directory that the logs of a run are uploaded below. -/
def artifacts (ctx : ReportContext) : String :=
  ctx.logBucket ++ "/" ++ ctx.version.name ++ "/refs/heads/" ++ ctx.headRef ++ "/artifacts/"
    ++ ctx.buildId

/-- The link to a log file. -/
def logUrl (ctx : ReportContext) (file : String) : String :=
  "https://storage.cloud.google.com/" ++ ctx.artifacts ++ "/" ++ file

/-- The link to a directory of logs. -/
def browserUrl (ctx : ReportContext) (dir : String) : String :=
  "https://console.cloud.google.com/storage/browser/" ++ ctx.artifacts ++ "/" ++ dir

end ReportContext

end CassetteGate
