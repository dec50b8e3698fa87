import CassetteGate.Results.Basic
import CassetteGate.Text.Blank
import CassetteGate.Text.Lines
import CassetteGate.Text.Substring
import CassetteGate.Text.Word

/-!
# `TestLog` — reading what test processes print

The verbose output of a test process is read line by line. A line that starts, without
indentation, with `--- PASS: `, `--- FAIL: ` or `--- SKIP: ` and the name of an acceptance test is
a report; a line that starts with `panic: ` is a panic. All else is passed over.

## Contents
- **`testName?`**: the acceptance test that a text starts with the name of.
- **`report?`**, **`panic?`**: what one line says.
- **`parse`**: the result that a whole log adds up to.
-/

namespace CassetteGate.TestLog

open Text

/-- What every acceptance test's name starts with. -/
def acceptanceStem : List Char := ['T', 'e', 's', 't', 'A', 'c', 'c']

/-- The name of an acceptance test at the start of a text, and what follows: the stem and at least
    one more word character, as many as there are. -/
def testName? (cs : List Char) : Option (List Char × List Char) :=
  match after? acceptanceStem cs with
  | none => none
  | some rest =>
      let (word, tail) := wordRun rest
      if word.isEmpty then none else some (acceptanceStem ++ word, tail)

/-- A name and what follows it are the whole text. -/
theorem eq_append_of_testName? {cs name tail : List Char} (h : testName? cs = some (name, tail)) :
    cs = name ++ tail := by
  unfold testName? at h
  cases hrest : after? acceptanceStem cs with
  | none =>
      rw [hrest] at h
      cases h
  | some rest =>
      simp only [hrest] at h
      split at h
      · cases h
      · obtain ⟨rfl, rfl⟩ := Prod.mk.inj (Option.some.inj h)
        rw [after?_eq_some_iff.1 hrest, List.append_assoc, wordRun_append]

/-- What a report line of each outcome starts with. -/
def reportLeads : List (List Char × TestOutcome) :=
  [("--- PASS: ".toList, .pass), ("--- FAIL: ".toList, .fail), ("--- SKIP: ".toList, .skip)]

/-- The report that a line makes. -/
def report? (line : List Char) : Option (TestOutcome × String) :=
  reportLeads.findSome? fun (lead, outcome) =>
    match after? lead line with
    | none => none
    | some rest => (testName? rest).map fun (name, _) => (outcome, String.ofList name)

/-- The panic that a line announces: the line without the blanks at its end. -/
def panic? (line : List Char) : Option String :=
  (after? "panic: ".toList line).map fun _ => String.ofList (trimEnd line)

/-- The reports of a log, in order. -/
def reports (cs : List Char) : List (TestOutcome × String) := (splitLines cs).filterMap report?

/-- The panics of a log, in order. -/
def panics (cs : List Char) : List String := (splitLines cs).filterMap panic?

/-- The result that a log adds up to. -/
def parse (log : String) : RunResult :=
  let r := (reports log.toList).foldl (fun acc e => acc.record e.1 e.2) RunResult.empty
  { r with panics := panics log.toList }

example : parse "=== RUN   TestAccA\n--- PASS: TestAccA (1.2s)\n    --- FAIL: TestAccA/x (0s)\n" =
    { RunResult.empty with passed := .ofList ["TestAccA"] } := by decide +kernel

end CassetteGate.TestLog
