import CassetteGate.Failure
import CassetteGate.Host.OsError
import CassetteGate.Path

/-!
# `Pipeline.Faults` — what can go wrong with a collaborator

## Contents
- **`RunnerFault`**: why tests could not be run at all.
- **`ServiceFault`**: why a store or the review platform did not do what it was asked for.
- **`Failure.ofRunner`**: a run that cannot run its tests is given up.
-/

namespace CassetteGate

/-- Why tests could not be run at all. -/
inductive RunnerFault where
  /-- The program could not be started. -/
  | launch (program : String) (cause : OsError)
  /-- There is no checkout of the provider. -/
  | repoNotConfigured (path : Path)
  /-- The packages of the repository could not be listed. -/
  | packageDiscovery (reason : String)
  /-- A file could not be read or written. -/
  | file (cause : OsError)
  /-- The moment at which the process would be killed cannot be expressed. -/
  | deadlineOverflow
  deriving DecidableEq

namespace RunnerFault

/-- The text of a fault. -/
def message : RunnerFault → String
  | .launch program cause => "failed to launch `" ++ program ++ "`: " ++ cause.message
  | .repoNotConfigured path => "provider repository not found at " ++ path.text
  | .packageDiscovery reason => "package discovery failed: " ++ reason
  | .file cause => "I/O error: " ++ cause.message
  | .deadlineOverflow => "overflow when adding durations"

/-- The texts of what lies behind a fault. -/
def causes : RunnerFault → List String
  | .launch _ cause => [cause.message]
  | .file cause => [cause.message]
  | _ => []

end RunnerFault

/-- Why a store or the review platform did not do what it was asked for. -/
inductive ServiceFault where
  /-- A command could not be started or failed. -/
  | commandFailed (command reason : String)
  /-- A request could not be sent or was not answered. -/
  | transport
  /-- A request was answered with a refusal. -/
  | api (service : String) (status : UInt16) (body : String)
  /-- There are no cassettes. -/
  | missingCassettes (place : String)
  /-- A file could not be read or written. -/
  | file (cause : OsError)
  deriving DecidableEq

/-- The text of a fault. -/
def ServiceFault.message : ServiceFault → String
  | .commandFailed command reason => "command `" ++ command ++ "` failed: " ++ reason
  | .transport => "HTTP request failed"
  | .api service status body =>
      service ++ " returned status " ++ toString status.toNat ++ ": " ++ body
  | .missingCassettes place => "no cassettes found at " ++ place
  | .file cause => "I/O error: " ++ cause.message

/-- A run that cannot run its tests is given up. -/
def Failure.ofRunner (e : RunnerFault) : Failure := .setup "test execution" e.message

end CassetteGate
