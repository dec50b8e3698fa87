/-!
# `Cli.LogFormat` — how log lines are written
-/

namespace CassetteGate

/-- How log lines are written. -/
inductive LogFormat where
  /-- For people. -/
  | text
  /-- For log collectors. -/
  | json
  deriving DecidableEq, Inhabited

namespace LogFormat

/-- The format that goes with the presence of the option for JSON. -/
def ofFlag (json : Bool) : LogFormat := if json then .json else .text

/-- The name of a format. -/
def name : LogFormat → String
  | .text => "Text"
  | .json => "Json"

end LogFormat

end CassetteGate
