import CassetteGate.Report.Links
import CassetteGate.State

/-!
# `Report.Presubmit` — the comment on a pull request

The comment is made of sections with an empty line between neighbours; each section is a list of
lines. Which sections there are depends on where the run came to its end.

## Contents
- **`colored`**, **`bulletList`**: marked-up text.
- **`analytics`**, **`affectedPackages`**, **`unexercised`**, **`actionTaken`**, **`replayClean`**,
  **`recordReplay`**, **`crash`**: the sections.
- **`sections`**, **`report?`**: the whole comment.
-/

namespace CassetteGate.Report

/-- The lines of a part of a report. -/
abbrev Lines := List String

/-- The text that lines make. -/
def text (lines : Lines) : String := "\n".intercalate lines

/-- A text in a colour, written as inline formula. -/
def colored (color text : String) : String :=
  "$\\textcolor\x7b" ++ color ++ "\x7d\x7b\\textsf\x7b" ++ text ++ "\x7d\x7d$"

/-- A list with bullets. -/
def bulletList (items : List String) : Lines :=
  "<ul>" :: items.map (fun t => "<li>" ++ t ++ "</li>") ++ ["</ul>"]

/-! ## Sections -/

/-- How many tests there were. -/
def analytics (r : RunResult) : Lines :=
  ["#### Tests analytics",
   "Total tests: " ++ toString r.total,
   "Passed tests: " ++ toString r.passed.size,
   "Skipped tests: " ++ toString r.skipped.size,
   "Affected tests: " ++ toString r.failed.size]

/-- Which packages the change can affect. -/
def affectedPackages (s : ChangeSurface) : Lines :=
  let body :=
    if s.fullSweep then ["All service packages are affected"]
    else if s.packages.isEmpty then ["None"]
    else bulletList s.packages.toList
  ["<details>", "<summary>Click here to see the affected service packages</summary>",
   "<blockquote>", ""] ++ body ++ ["", "</blockquote>", "</details>"]

/-- One block of the section on tests that were not run. -/
def unexercisedBlock (heading : String) (tests : List String) : Lines :=
  if tests.isEmpty then [] else "" :: heading :: tests.map ("- " ++ ·)

/-- Which added tests were not run; there is no such section if there are none. -/
def unexercised (t : UnexercisedTests) : Option Lines :=
  if t.isEmpty then none
  else some ("#### Non-exercised tests"
    :: unexercisedBlock "Tests were added that are skipped in VCR:" t.beta
    ++ unexercisedBlock "Tests were added that are GA-only additions and require manual runs:" t.ga)

/-- Where to read about record and replay tests. -/
def contributingLink : String :=
  "[Get to know how VCR tests work](https://googlecloudplatform.github.io/magic-modules/docs/"
    ++ "getting-started/contributing/#general-contributing-steps)"

/-- Which tests are recorded anew. -/
def actionTaken (replay : RunResult) : Lines :=
  ["#### Action taken", "<details>",
   "<summary>Found " ++ toString replay.failed.size
    ++ " affected test(s) by replaying old test recordings. Starting RECORDING based on the most "
    ++ "recent commit. Click here to see the affected tests</summary>",
   "<blockquote>"]
  ++ bulletList replay.failed.toList
  ++ ["</blockquote>", "</details>", "", contributingLink]

/-- A link to a log of a whole phase. -/
def buildLogLink (ctx : ReportContext) (file : String) : String :=
  "View the [build log](" ++ ctx.logUrl file ++ ")"

/-- What the green line of a run without trouble says. -/
def allPassed : String := colored "green" "All tests passed!"

/-- The end of a report when no test failed in the replay. -/
def replayClean (replay : PhaseRun) (ctx : ReportContext) : Lines :=
  [if replay.exitError.isSome then
     colored "red" "Errors occurred during REPLAYING mode. Please fix them to complete your PR."
   else allPassed,
   "", buildLogLink ctx "build-log/replaying_test.log"]

/-- A test with the link to its debug log. -/
def debugLine (ctx : ReportContext) (debugLog test : String) : String :=
  "`" ++ test ++ "`[[Debug log](" ++ ctx.logUrl debugLog ++ ")]"

/-- A failed test with the links to its error message and its debug log. -/
def failureLine (ctx : ReportContext) (errorLog debugLog test : String) : String :=
  "`" ++ test ++ "`[[Error message](" ++ ctx.logUrl errorLog ++ ")] [[Debug log]("
    ++ ctx.logUrl debugLog ++ ")]"

/-- What the replay of fresh cassettes showed. -/
def confirmLines (confirm : PhaseRun) (ctx : ReportContext) : Lines :=
  if confirm.result.crashed then
    [colored "red"
       ("The provider crashed while running the VCR tests in REPLAYING mode after recording"),
     colored "red" "Please fix it to complete your PR",
     "",
     buildLogLink ctx "build-log/replaying_test.log"]
  else if !confirm.result.failed.isEmpty then
    colored "red" "Tests failed when rerunning REPLAYING mode:"
    :: confirm.result.failed.toList.map (fun t =>
        failureLine ctx
          ("build-log/replaying_build_after_recording/" ++ t ++ "_replaying_test.log")
          ("replaying_after_recording/" ++ t ++ ".log") t)
    ++ ["",
        "Tests failed due to non-determinism or randomness when the VCR replayed the response "
          ++ "after the HTTP request was made.",
        "",
        "Please fix these to complete your PR. If you believe these test failures to be incorrect "
          ++ "or unrelated to your change, or if you have any questions, please raise the concern "
          ++ "with your reviewer."]
  else if confirm.exitError.isSome then
    [colored "red" ("Errors occurred during REPLAYING mode after recording. "
      ++ "Please fix them to complete your PR.")]
  else [colored "green" "No issues found for passed tests after REPLAYING rerun."]

/-- Which tests were recorded, and what replaying them showed. -/
def recordedLines (record confirm : PhaseRun) (ctx : ReportContext) : Lines :=
  if record.result.passed.isEmpty then []
  else
    colored "green" "Tests passed during RECORDING mode:"
    :: record.result.passed.toList.map (fun t => debugLine ctx ("recording/" ++ t ++ ".log") t)
    ++ [""] ++ confirmLines confirm ctx ++ ["", "---", ""]

/-- What is said of tests that recording lost. -/
def terminatedLine : String :=
  colored "red" "Several tests got terminated during RECORDING mode."

/-- What is said of a fault of the recording process. -/
def recordErrorLine : String :=
  colored "red" "Errors occurred during RECORDING mode. Please fix them to complete your PR."

/-- What went wrong in recording, or that nothing did. -/
def recordFaultLines (record confirm : PhaseRun) (terminated : Bool) (ctx : ReportContext) :
    Lines :=
  if !record.result.failed.isEmpty then
    colored "red" "Tests failed during RECORDING mode:"
    :: record.result.failed.toList.map (fun t =>
        failureLine ctx ("build-log/recording_build/" ++ t ++ "_recording_test.log")
          ("recording/" ++ t ++ ".log") t)
    ++ [""]
    ++ (if terminated then [terminatedLine] else [])
    ++ (if record.exitError.isSome then [recordErrorLine] else [])
    ++ [colored "red" "Please fix these to complete your PR."]
  else if terminated then [terminatedLine]
  else if record.exitError.isSome then [recordErrorLine]
  else if confirm.isClean then [allPassed]
  else []

/-- The end of a report when tests were recorded. -/
def recordReplay (s : RunState) (ctx : ReportContext) : Lines :=
  let record := s.record.getD .empty
  let confirm := s.confirm.getD .empty
  recordedLines record confirm ctx
  ++ recordFaultLines record confirm s.hasTerminatedTests ctx
  ++ ["",
      "View the [build log](" ++ ctx.logUrl "build-log/recording_test.log"
        ++ ") or the [debug log](" ++ ctx.browserUrl "recording" ++ ") for each test"]

/-- All there is to say when the provider crashed. -/
def crash (mode : TestMode) (ctx : ReportContext) : Lines :=
  [colored "red"
     ("The provider crashed while running the VCR tests in " ++ mode.upper ++ " mode"),
   "",
   colored "red" "Please fix it to complete your PR",
   "",
   buildLogLink ctx ("build-log/" ++ mode.lower ++ "_test.log")]

/-! ## The whole comment -/

/-- The sections on a run that did not crash. -/
def sections (s : RunState) (ctx : ReportContext) : List Lines :=
  let replay := s.replay.getD .empty
  [analytics replay.result, affectedPackages s.surface]
  ++ (unexercised s.unexercised).toList
  ++ (if replay.result.failed.isEmpty then [replayClean replay ctx]
      else [actionTaken replay.result, recordReplay s ctx])

/-- The lines of the comment on a run; a run that has not come to an end, or had nothing to test,
    is not commented on. -/
def lines? (s : RunState) (ctx : ReportContext) : Option Lines :=
  match s.terminal with
  | none => none
  | some .nothingToTest => none
  | some .replayPanicked => some (crash .replaying ctx)
  | some .recordPanicked => some (crash .recording ctx)
  | some .replayedClean => some ([""].intercalate (sections s ctx))
  | some .done => some ([""].intercalate (sections s ctx))

/-- The text of the comment on a run. -/
def report? (s : RunState) (ctx : ReportContext) : Option String := (lines? s ctx).map text

end CassetteGate.Report
