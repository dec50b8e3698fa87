/-!
# `Release` — what the program calls itself
-/

namespace CassetteGate.Release

/-- The name of the program. -/
def name : String := "magician"

/-- The version of the program. -/
def version : String := "0.3.1"

/-- What the program is told to print when asked for its version. -/
def banner : String := name ++ " " ++ version

/-- How the program introduces itself on the web. -/
def userAgent : String := name ++ "/" ++ version

end CassetteGate.Release
