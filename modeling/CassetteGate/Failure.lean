/-!
# `Failure` — why a run cannot be carried out

Failing tests and failing test processes are results, not failures. A failure ends a run before it
can say anything about the change.
-/

namespace CassetteGate

/-- Why a run was given up. -/
inductive Failure where
  /-- A step of the set-up failed. -/
  | setup (stage reason : String)
  /-- The configuration makes no sense. -/
  | invalidConfig (reason : String)
  /-- Variables that have to be set are not. -/
  | missingVariables (names : List String)
  /-- A file could not be read or written. -/
  | file (reason : String)
  deriving DecidableEq

/-- The text of a failure. -/
def Failure.message : Failure → String
  | .setup stage reason => "setup failed during " ++ stage ++ ": " ++ reason
  | .invalidConfig reason => "invalid configuration: " ++ reason
  | .missingVariables names =>
      "missing required environment variables: " ++ ", ".intercalate names
  | .file reason => "io error: " ++ reason

end CassetteGate
