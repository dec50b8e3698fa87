import CassetteGate.Cli.Arguments
import CassetteGate.Config.Basic

/-!
# `Cli.Options` — the commands and what they are told

## Contents
- **`PresubmitOptions`**, **`NightlyOptions`**, **`Order`**: what a command line asks for.
- **`Order.read`**: the order that a command line gives.
-/

namespace CassetteGate.Cli

/-- The parts of a command line that all commands have in common. -/
structure Places where
  /-- The working directory. -/
  baseDir : Path
  /-- The checkout of the provider, if it is not below the working directory. -/
  repoPath : Option Path
  deriving DecidableEq

/-- The layout of the build machine. -/
def Places.layout (p : Places) : Layout := ⟨p.baseDir, p.repoPath.getD (p.baseDir / "tpgb")⟩

/-- What the command for pull requests is told. -/
structure PresubmitOptions where
  /-- The pull request. -/
  target : ReviewTarget
  /-- The build. -/
  build : BuildIdentity
  /-- The branch that the change is to be merged into. -/
  baseBranch : String
  /-- The provider version under test. -/
  version : ProviderVersion
  /-- Where things lie. -/
  places : Places
  /-- A file with the paths that the change touches. -/
  changedFiles : Option Path
  /-- A file with the change to the general provider. -/
  gaDiff : Option Path
  /-- A file with the change to the beta provider. -/
  betaDiff : Option Path
  deriving DecidableEq

/-- What the command for the nightly refresh is told. -/
structure NightlyOptions where
  /-- The build. -/
  buildId : String
  /-- Where things lie. -/
  places : Places
  deriving DecidableEq

/-- What a command line asks for. -/
inductive Order where
  /-- A run for a pull request. -/
  | presubmit (options : PresubmitOptions)
  /-- A nightly refresh. -/
  | nightly (options : NightlyOptions)
  deriving DecidableEq

/-! ## Reading -/

/-- The name of the command for pull requests. -/
def presubmitCommand : String := "test-terraform-vcr"

/-- The name of the command for the nightly refresh. -/
def nightlyCommand : String := "vcr-cassette-update"

/-- A path must not be empty. -/
def isPath (value : String) : Bool := !value.isEmpty

/-- A provider version must be one of those that there are. -/
def isVersion (value : String) : Bool := (ProviderVersion.ofName value).isOk

/-- What the command for pull requests can be given. -/
def presubmitGrammar : Grammar :=
  { options :=
      [("base-branch", fun _ => true), ("provider-version", isVersion), ("base-dir", isPath),
       ("repo-path", isPath), ("changed-files", isPath), ("ga-diff", isPath),
       ("beta-diff", isPath)]
    positionals := 5 }

/-- What the command for the nightly refresh can be given. -/
def nightlyGrammar : Grammar :=
  { options := [("base-dir", isPath), ("repo-path", isPath)]
    positionals := 1 }

/-- A path that was given. -/
def pathOption (g : Given) (name : String) : Option Path := (g.option? name).map Path.mk

/-- The places that were given; the working directory is the current one if nothing is said. -/
def placesOf (g : Given) : Places :=
  ⟨(pathOption g "base-dir").getD ⟨"."⟩, pathOption g "repo-path"⟩

/-- The provider version that was given; the beta provider if nothing is said. -/
def versionOf (g : Given) : ProviderVersion :=
  match (g.option? "provider-version").map ProviderVersion.ofName with
  | some (.ok v) => v
  | _ => .beta

/-- The base branch that was given, or else the one that the environment names. -/
def baseBranchOf (env : Variables) (g : Given) : String :=
  (g.option? "base-branch").getD ((env.seen? "BASE_BRANCH").getD "main")

/-- What the command for pull requests is told. -/
def presubmitOptions (env : Variables) (g : Given) : Except Stop Order :=
  match g.positionals with
  | [number, commitSha, buildId, projectId, buildStep] =>
      .ok (.presubmit
        { target := ⟨number, commitSha⟩
          build := ⟨buildId, projectId, buildStep⟩
          baseBranch := baseBranchOf env g
          version := versionOf g
          places := placesOf g
          changedFiles := pathOption g "changed-files"
          gaDiff := pathOption g "ga-diff"
          betaDiff := pathOption g "beta-diff" })
  | _ => .error .misuse

/-- What the command for the nightly refresh is told. -/
def nightlyOptions (g : Given) : Except Stop Order :=
  match g.positionals with
  | [buildId] => .ok (.nightly ⟨buildId, placesOf g⟩)
  | _ => .error .misuse

/-- The commands that help can be asked for. -/
def helpTopics : List String := [presubmitCommand, nightlyCommand, "help"]

/-- What a request for help comes to. -/
def readHelp : List String → Stop
  | [] => .help
  | [topic] => if helpTopics.contains topic then .help else .misuse
  | _ => .misuse

/-- The order that a command line gives. -/
def Order.read (env : Variables) (args : List String) : Except Stop Order := do
  let (_, command, rest) ← readLead .nothing args
  if command = presubmitCommand then presubmitOptions env (← presubmitGrammar.readAll rest)
  else if command = nightlyCommand then nightlyOptions (← nightlyGrammar.readAll rest)
  else if command = "help" then throw (readHelp rest)
  else throw .misuse

end CassetteGate.Cli
