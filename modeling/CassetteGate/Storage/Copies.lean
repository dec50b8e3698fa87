import CassetteGate.Host.Request
import CassetteGate.Storage.Buckets
import CassetteGate.Text.Blank

/-!
# `Storage.Copies` — cassettes and logs brought here and published

Files are copied by a command, one call for each source. A layer of cassettes may well be missing,
so that a fetch goes on without it; and a log that cannot be published does not keep the others
from being published.

## Contents
- **`Store`**: the buckets, the machine's directories and the copying program.
- **`Store.copy`**: one call.
- **`Store.fetch`**, **`Store.upload`**, **`Store.uploadLogs`**.
-/

namespace CassetteGate

/-- What copies between the machine and the cloud. -/
structure Store where
  /-- The buckets. -/
  buckets : Buckets
  /-- The directories of the machine. -/
  layout : Layout
  /-- The program that copies. -/
  program : String
  deriving DecidableEq

namespace Store

/-- The store that a configuration describes. -/
def ofConfig (config : Config) : Store := ⟨.ofConfig config, config.layout, "gsutil"⟩

/-- Calls the program that copies. -/
def copy (s : Store) (args : List String) : HostProgram (Except ServiceFault Unit) := do
  let command := (Command.ofProgram s.program).addArgs args
  match ← Host.ask (.execute command) with
  | .error e => return .error (.commandFailed command.display e.message)
  | .ok output =>
      if output.success then return .ok ()
      else return .error (.commandFailed command.display (Text.trimmed output.stderr))

/-- Makes every copy, whatever becomes of the others, and returns what became of each. -/
def copyAll (s : Store) : List (List String) → HostProgram (List (Except ServiceFault Unit))
  | [] => return []
  | args :: rest => do
      let result ← s.copy args
      return result :: (← copyAll s rest)

/-- The first fault among some results. -/
def firstFault : List (Except ServiceFault Unit) → Except ServiceFault Unit
  | [] => .ok ()
  | .ok () :: rest => firstFault rest
  | .error e :: _ => .error e

/-- Brings cassettes here, one layer over the other. -/
def fetch (s : Store) (version : ProviderVersion) (baseBranch : String) (head : Option String) :
    HostProgram (Except ServiceFault Path) := do
  let dir := s.layout.cassetteDir version
  match ← Host.ask (.createDirectories dir) with
  | .error e => return .error (.file e)
  | .ok () =>
      let _ ← s.copyAll ((s.buckets.fetchSources version baseBranch head).map fun source =>
        cassetteCopyArgs source dir.text)
      return .ok dir

/-- Publishes the cassettes of a directory. -/
def upload (s : Store) (source : Path) (target : UploadTarget) (version : ProviderVersion) :
    HostProgram (Except ServiceFault Unit) :=
  s.copy (cassetteCopyArgs (source / "*").text (s.buckets.uploadDestination version target))

/-- Publishes logs; the first fault is returned. -/
def uploadLogs (s : Store) (logs : LogUpload) : HostProgram (Except ServiceFault Unit) := do
  return firstFault (← s.copyAll (s.buckets.logCommands s.layout logs))

end Store

end CassetteGate
