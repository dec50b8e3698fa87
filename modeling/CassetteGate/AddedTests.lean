import CassetteGate.TestLog

/-!
# `AddedTests` — tests that a change adds and no replay runs

A diff adds an acceptance test where one of its lines adds the test's function declaration. Of the
tests added to the beta provider those are reported that the replay neither passed nor failed; of
those added to the general provider, the ones that the beta provider does not get.

## Contents
- **`declaredTest?`**: the test whose declaration a diff line adds.
- **`addedTests`**: the tests that a diff adds.
- **`UnexercisedTests`**, and **`UnexercisedTests.of`**: what a replay left out.
-/

namespace CassetteGate

open Text

/-- The test whose function declaration a line of a diff adds. A declaration that is commented out
    or indented does not count. -/
def declaredTest? (line : List Char) : Option String :=
  match after? "+func ".toList line with
  | none => none
  | some rest =>
      match TestLog.testName? rest with
      | none => none
      | some (name, tail) =>
          (after? "(t *testing.T) \x7b".toList tail).map fun _ => String.ofList name

/-- The acceptance tests that a diff adds. -/
def addedTests (diff : String) : NameSet :=
  .ofList ((splitLines diff.toList).filterMap declaredTest?)

/-- Added tests that the replay does not vouch for. -/
structure UnexercisedTests where
  /-- Added to the beta provider and neither passed nor failed. -/
  beta : List String
  /-- Added to the general provider only, so that no beta run can run them. -/
  ga : List String
  deriving DecidableEq, Inhabited

namespace UnexercisedTests

/-- No such test. -/
def none : UnexercisedTests := ⟨[], []⟩

/-- Whether there is no such test. -/
def isEmpty (t : UnexercisedTests) : Bool := t.beta.isEmpty && t.ga.isEmpty

/-- The tests that two diffs add and a replay does not vouch for. -/
def of (gaDiff betaDiff : String) (replay : RunResult) : UnexercisedTests :=
  let beta := addedTests betaDiff
  let ga := addedTests gaDiff
  { beta := (beta.filter fun t => !replay.passed.contains t && !replay.failed.contains t).toList
    ga := (ga.filter fun t => !beta.contains t).toList }

end UnexercisedTests

end CassetteGate
