import CassetteGate.Review.Client
import CassetteGate.Runner.Phases
import CassetteGate.Storage.Copies

/-!
# `Pipeline.OnHost` — runs carried out on a machine

Each request of a run is carried out by a program for the machine: tests by the runner, fetches
and uploads by the store, posts by the client of the review platform. Events go to the log.
-/

namespace CassetteGate

/-- The collaborators of a run on a machine. -/
structure Collaborators where
  /-- Runs tests. -/
  runner : Runner
  /-- Keeps cassettes and logs. -/
  store : Store
  /-- Reaches the review platform. -/
  review : ReviewSettings
  deriving DecidableEq

namespace Collaborators

/-- The collaborators that a configuration describes; the token for the review platform is empty
    if the configuration has none. -/
def ofConfig (config : Config) : Collaborators :=
  { runner := .ofConfig config
    store := .ofConfig config
    review := .ofToken ((config.testEnv.get? "GITHUB_TOKEN").getD "") }

/-- Carries out a request. -/
def carryOut (c : Collaborators) : (q : Pipeline.Request) → HostProgram q.Answer
  | .runTests options => (c.runner.runPackages options).run
  | .runEach options => (c.runner.runTests options).run
  | .fetch version baseBranch head => c.store.fetch version baseBranch head
  | .upload source target version => c.store.upload source target version
  | .uploadLogs logs => c.store.uploadLogs logs
  | .postReport target text => c.review.postReport target text
  | .postStatus post => c.review.postStatus post
  | .emit event => Host.log (.event event)

/-- Carries out a run. -/
def perform {α : Type} (c : Collaborators) (p : Pipeline α) : HostProgram (Except Failure α) :=
  p.run.handle c.carryOut

end Collaborators

end CassetteGate
