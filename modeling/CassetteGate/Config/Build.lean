/-!
# `Config.Build` — the change under test and the build that tests it

## Contents
- **`ReviewTarget`**: the pull request and commit that a run reports to.
- **`BuildIdentity`**: the build that runs it, and the link to it.
-/

namespace CassetteGate

/-- The pull request that a run reports to. -/
structure ReviewTarget where
  /-- The number of the pull request. -/
  number : String
  /-- The commit that statuses are posted on. -/
  commitSha : String
  deriving DecidableEq, Inhabited

/-- The branch that the generated commit of a change lives on. -/
def ReviewTarget.headRef (t : ReviewTarget) : String := "auto-pr-" ++ t.number

/-- The build that executes a run. -/
structure BuildIdentity where
  /-- The build. -/
  buildId : String
  /-- The project it belongs to. -/
  projectId : String
  /-- The step of the build. -/
  buildStep : String
  deriving DecidableEq

namespace BuildIdentity

/-- A build that nothing is known of. -/
def unknown : BuildIdentity := ⟨"", "", ""⟩

instance : Inhabited BuildIdentity := ⟨unknown⟩

/-- The link that is attached to commit statuses. -/
def statusUrl (b : BuildIdentity) : String :=
  "https://console.cloud.google.com/cloud-build/builds;region=global/" ++ b.buildId
    ++ ";step=" ++ b.buildStep ++ "?project=" ++ b.projectId

end BuildIdentity

end CassetteGate
