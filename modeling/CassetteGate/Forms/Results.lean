import CassetteGate.Json.Codec
import CassetteGate.Verdict

/-!
# `Forms.Results` — JSON forms of what a run finds out

Outcomes, results, phases, surfaces and verdicts, and the words for modes, versions, statuses and
ends of runs.

## Contents
- **`ofTag?`**: a choice without contents, read by its tag.
- Instances from **`TestMode`** to **`Verdict`**.
-/

namespace CassetteGate

open Json

/-! ## Words -/

/-- The value among `values` whose tag a JSON form is. -/
def Json.ofTag? {α : Type} (tag : α → String) (values : List α) (j : Json) : Option α :=
  (bareTag? j).bind fun word => values.find? fun a => tag a == word

instance : JsonForm TestMode where
  toJson m := .str m.upper
  ofJson? := ofTag? TestMode.upper [.replaying, .recording]

instance : JsonForm ProviderVersion where
  toJson v := .str v.name
  ofJson? := ofTag? ProviderVersion.name [.ga, .beta, .privateBuild]

/-- The word for an outcome. -/
def TestOutcome.tag : TestOutcome → String
  | .pass => "Pass"
  | .fail => "Fail"
  | .skip => "Skip"

instance : JsonForm TestOutcome where
  toJson o := .str o.tag
  ofJson? := ofTag? TestOutcome.tag [.pass, .fail, .skip]

instance : JsonForm BuildState where
  toJson s := .str s.name
  ofJson? := ofTag? BuildState.name [.pending, .success, .failure]

instance : JsonForm Terminal where
  toJson t := .str t.tag
  ofJson? := ofTag? Terminal.tag
    [.nothingToTest, .replayPanicked, .replayedClean, .recordPanicked, .done]

/-! ## Results -/

instance : JsonForm RunResult where
  toJson r := .obj
    [("passed", toJson r.passed), ("failed", toJson r.failed), ("skipped", toJson r.skipped),
     ("panics", toJson r.panics)]
  ofJson? j := do
    let fs ← record? ["passed", "failed", "skipped", "panics"] j
    return {
      passed := ← field fs "passed"
      failed := ← field fs "failed"
      skipped := ← field fs "skipped"
      panics := ← field fs "panics" }

instance : JsonForm PhaseRun where
  toJson r := .obj [("result", toJson r.result), ("exit_error", toJson r.exitError)]
  ofJson? j := do
    let fs ← record? ["result", "exit_error"] j
    return {
      result := ← field fs "result"
      exitError := ← optionalField fs "exit_error" }

instance : JsonForm UnexercisedTests where
  toJson t := .obj [("not_run_beta", toJson t.beta), ("not_run_ga", toJson t.ga)]
  ofJson? j := do
    let fs ← record? ["not_run_beta", "not_run_ga"] j
    return {
      beta := ← field fs "not_run_beta"
      ga := ← field fs "not_run_ga" }

/-! ## Surfaces and verdicts -/

instance : JsonForm ChangeSurface where
  toJson s := .obj
    [("affected_packages", toJson s.packages), ("run_full_sweep", toJson s.fullSweep)]
  ofJson? j := do
    let fs ← record? ["affected_packages", "run_full_sweep"] j
    return {
      packages := ← field fs "affected_packages"
      fullSweep := ← field fs "run_full_sweep" }

instance : JsonForm SurfaceRules where
  toJson r := .obj
    [("service_roots", toJson r.serviceRoots), ("ignored_files", toJson r.ignoredFiles)]
  ofJson? j := do
    let fs ← record? ["service_roots", "ignored_files"] j
    return {
      serviceRoots := ← field fs "service_roots"
      ignoredFiles := ← field fs "ignored_files" }

instance : JsonForm Verdict where
  toJson v := .obj
    [("passed", toJson v.passed), ("violations", toJson v.violations),
     ("message", toJson v.message)]
  ofJson? j := do
    let fs ← record? ["passed", "violations", "message"] j
    return {
      passed := ← field fs "passed"
      violations := ← field fs "violations"
      message := ← field fs "message" }

end CassetteGate
