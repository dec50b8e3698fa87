import CassetteGate.Failure
import CassetteGate.Pipeline.Faults
import CassetteGate.Text.Lines

/-!
# `Cli.Complaint` — why a command did not do what it was told

A complaint says what could not be done, and under it what lies behind that, one cause after the
other. Causes are numbered if there are several, and a cause of several lines is indented as a
whole.
-/

namespace CassetteGate.Cli

/-- Why a command did not do what it was told. -/
structure Complaint where
  /-- What could not be done. -/
  message : String
  /-- What lies behind that, each cause behind the one before. -/
  causes : List String
  deriving DecidableEq, Inhabited

namespace Complaint

/-- A text with `lead` before its first line and `indent` before every further one. -/
def indented (lead indent : String) (cause : String) : String :=
  lead ++ ("\n" ++ indent).intercalate ((Text.splitLines cause.toList).map String.ofList)

/-- The lines of numbered causes. -/
def numbered (first : Nat) : List String → List String
  | [] => []
  | cause :: rest =>
      indented ("    " ++ toString first ++ ": ") "       " cause :: numbered (first + 1) rest

/-- The text of a complaint. -/
def text (c : Complaint) : String :=
  "Error: " ++ c.message
  ++ match c.causes with
    | [] => ""
    | [cause] => "\n\nCaused by:\n" ++ indented "    " "    " cause
    | causes => "\n\nCaused by:\n" ++ "\n".intercalate (numbered 0 causes)

/-- The complaint about a failure. -/
def ofFailure (message : String) (f : Failure) : Complaint := ⟨message, [f.message]⟩

/-- The complaint about a fault of the runner. -/
def ofRunner (message : String) (e : RunnerFault) : Complaint := ⟨message, e.message :: e.causes⟩

/-- The complaint about a refusal of the operating system. -/
def ofSystem (message : String) (e : OsError) : Complaint := ⟨message, [e.message]⟩

end Complaint

end CassetteGate.Cli
