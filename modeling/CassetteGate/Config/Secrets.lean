import CassetteGate.Text.Substring
import CassetteGate.Variables

/-!
# `Config.Secrets` — variables whose values never reach a log

## Contents
- **`isSecret`**: the names of such variables.
- **`redact`**: variables with the secret values blotted out.
-/

namespace CassetteGate

/-- Whether a variable holds a credential. -/
def isSecret (name : String) : Bool :=
  name == "SA_KEY" || name == "GOOGLE_CREDENTIALS" || Text.startsWith name "GITHUB_TOKEN"

/-- What is written for the value of a secret variable. -/
def redactedValue : String := "<redacted>"

/-- The variables as they may be logged: the value of a secret one is blotted out. -/
def redact (v : Variables) : Variables :=
  v.mapValues fun name value => if isSecret name then redactedValue else value

end CassetteGate
