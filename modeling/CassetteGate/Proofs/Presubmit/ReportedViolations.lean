import CassetteGate.Proofs.Presubmit.ReportedSuccess
import CassetteGate.Proofs.Report.RedLines

/-!
# `Proofs.Presubmit.ReportedViolations` — which violations the report of a run tells

The status on a commit says no more than that a check failed; why it did is for the report to say. The
verdict and the report look at the same two phases, but in different ways: the verdict collects one
violation after the other, while the report chooses between texts. So a violation may be in the verdict
and not in the report, namely if another one is told in its place.

A `Trouble` is what a run that was carried out to the end can be found at fault with. It is a violation
in the words of the verdict, and a red line in those of the report. The verdict has the violations of all
troubles (`violationsOf_eq`). The report has the lines of all but two of them (`text_mem_redTexts_iff`): an
error of the recording process is left out if no recording failed and tests were lost, and an error of the
confirming process is left out if a test failed in it. A recording process that cannot even build its
tests loses all of them, so the first of these is what its report leaves out (`violations_reported_unbuilt`).

## Contents
- **`Trouble`**, **`troubles`**: what a run is found at fault with; **`Trouble.Hidden`**: what its report
  leaves out.
- **`violationsOf_eq`**, **`text_mem_redTexts_iff`**: the verdict and the report on troubles.
- **`violations_reported_iff`**: the violations of a run and the lines of its report.
-/

namespace CassetteGate

namespace Presubmit

open Pipeline Report

/-! ## Troubles -/

/-- What a run that was carried out to the end is found at fault with. -/
inductive Trouble where
  /-- Recordings failed. -/
  | failedRecordings (count : Nat)
  /-- The recording accounted for fewer tests than it was asked for. -/
  | lostTests (accounted asked : Nat)
  /-- The recording process failed. -/
  | recordError (e : String)
  /-- The provider crashed on fresh cassettes. -/
  | confirmCrash
  /-- Tests failed on fresh cassettes. -/
  | nonDeterministic (count : Nat)
  /-- The process that replayed fresh cassettes failed. -/
  | confirmError (e : String)
  deriving DecidableEq

namespace Trouble

/-- The words of the verdict. -/
def violation : Trouble → String
  | .failedRecordings count => toString count ++ " test(s) failed in RECORDING mode"
  | .lostTests accounted asked =>
      "RECORDING mode accounted for " ++ toString accounted ++ " of " ++ toString asked ++ " test(s)"
  | .recordError e => "RECORDING mode error: " ++ e
  | .confirmCrash => "Provider crashed during REPLAYING mode after recording"
  | .nonDeterministic count => toString count ++ " test(s) are non-deterministic when replayed"
  | .confirmError e => "REPLAYING mode error after recording: " ++ e

/-- The words of the report. -/
def text : Trouble → String
  | .failedRecordings _ => "Tests failed during RECORDING mode:"
  | .lostTests _ _ => "Several tests got terminated during RECORDING mode."
  | .recordError _ => "Errors occurred during RECORDING mode. Please fix them to complete your PR."
  | .confirmCrash =>
      "The provider crashed while running the VCR tests in REPLAYING mode after recording"
  | .nonDeterministic _ => "Tests failed when rerunning REPLAYING mode:"
  | .confirmError _ =>
      "Errors occurred during REPLAYING mode after recording. Please fix them to complete your PR."

/-- The line of the report. -/
def line (k : Trouble) : String := colored "red" k.text

theorem oneLine_line (k : Trouble) : Text.OneLine k.line := by
  have htext : Text.OneLine k.text := by
    cases k <;> exact .ofList (by decide)
  exact oneLine_colored (.ofList (by decide)) htext

theorem line_recordError (e : String) : (recordError e).line = recordErrorLine := rfl

theorem line_ne (k : Trouble) : k.line ≠ "" := by
  intro hnone
  exact pale_empty k.text hnone.symm

/-- Another trouble is told in place of this one. -/
def Hidden (s : RunState) : Trouble → Prop
  | .recordError _ =>
      (s.record.getD .empty).result.failed.isEmpty = true ∧ s.hasTerminatedTests = true
  | .confirmError _ => (s.confirm.getD .empty).result.failed.isEmpty = false
  | _ => False

end Trouble

/-- The troubles of a recording that was asked for `asked` tests. -/
def recordTroubles (record : PhaseRun) (lost : Bool) (asked : Nat) : List Trouble :=
  (if record.result.failed.isEmpty then []
   else [.failedRecordings record.result.failed.size])
  ++ (if lost then
        [.lostTests (record.result.passed.size + record.result.failed.size) asked]
      else [])
  ++ record.exitError.toList.map .recordError

/-- The troubles of a replay of fresh cassettes; after a crash no others are looked for. -/
def confirmTroubles (confirm : PhaseRun) : List Trouble :=
  if confirm.result.crashed then [.confirmCrash]
  else
    (if confirm.result.failed.isEmpty then []
     else [.nonDeterministic confirm.result.failed.size])
    ++ confirm.exitError.toList.map .confirmError

theorem mem_recordTroubles_iff {k : Trouble} {record : PhaseRun} {lost : Bool} {asked : Nat} :
    k ∈ recordTroubles record lost asked ↔
      (k = .failedRecordings record.result.failed.size ∧ record.result.failed.isEmpty = false) ∨
      (k = .lostTests (record.result.passed.size + record.result.failed.size) asked ∧ lost = true) ∨
      ∃ e, k = .recordError e ∧ record.exitError = some e := by
  unfold recordTroubles
  cases record.result.failed.isEmpty <;> cases lost <;> cases record.exitError <;> simp

theorem mem_confirmTroubles_iff {k : Trouble} {confirm : PhaseRun} :
    k ∈ confirmTroubles confirm ↔
      (k = .confirmCrash ∧ confirm.result.crashed = true) ∨
      (k = .nonDeterministic confirm.result.failed.size ∧ confirm.result.crashed = false ∧
        confirm.result.failed.isEmpty = false) ∨
      ∃ e, k = .confirmError e ∧ confirm.result.crashed = false ∧ confirm.exitError = some e := by
  unfold confirmTroubles
  cases confirm.result.crashed <;> cases confirm.result.failed.isEmpty <;>
    cases confirm.exitError <;> simp

/-- The troubles of a run. -/
def troubles (s : RunState) : List Trouble :=
  recordTroubles (s.record.getD .empty) s.hasTerminatedTests
    (s.replay.getD .empty).result.failed.size
  ++ if (s.record.getD .empty).result.passed.isEmpty then []
     else confirmTroubles (s.confirm.getD .empty)

/-! ## In the verdict -/

theorem confirmViolations_eq (confirm : PhaseRun) :
    Verdict.confirmViolations (some confirm) = (confirmTroubles confirm).map Trouble.violation := by
  unfold Verdict.confirmViolations confirmTroubles
  by_cases hcrashed : confirm.result.crashed = true
  · simp only [if_pos hcrashed]
    rfl
  · simp only [if_neg hcrashed, List.map_append]
    congr 1
    · split <;> rfl
    · cases confirm.exitError <;> rfl

/-- The verdict on a recording that did not crash. -/
theorem recordViolations_eq {s : RunState} {record : PhaseRun} (asked : Nat)
    (hrecord : s.record = some record) (hcr : record.result.crashed = false) :
    Verdict.recordViolations s asked
      = (recordTroubles record s.hasTerminatedTests asked).map Trouble.violation
        ++ if record.result.passed.isEmpty then [] else Verdict.confirmViolations s.confirm := by
  unfold Verdict.recordViolations recordTroubles
  simp only [hrecord, hcr, if_false, Bool.false_eq_true, List.map_append]
  congr 1
  congr 1
  · congr 1
    · split <;> rfl
    · split <;> rfl
  · cases record.exitError <;> rfl

/-- **The verdict has the violations of all troubles**, in their order, and no others. -/
theorem violationsOf_eq {s : RunState} (h : Finished s) (hdone : s.terminal = some .done) :
    Verdict.violationsOf s = (troubles s).map Trouble.violation := by
  obtain ⟨replay, hr, hc, hf⟩ := h.replay_of_done hdone
  have hrecording : Verdict.violationsOf s
      = Verdict.recordViolations s replay.result.failed.size := by
    unfold Verdict.violationsOf
    simp only [hr, hc, hf, if_false, Bool.false_eq_true]
  rw [hrecording]
  unfold troubles
  rw [hr, Option.getD_some, List.map_append]
  cases h with
  | replayPanicked _ _ _ _ _ ht => exact absurd (ht.symm.trans hdone) nofun
  | replayedClean _ _ _ _ _ _ ht => exact absurd (ht.symm.trans hdone) nofun
  | recordPanicked _ _ _ _ _ _ _ _ ht => exact absurd (ht.symm.trans hdone) nofun
  | unrecorded _ record _ _ _ hrecord hcr hp hconfirm _ =>
      rw [recordViolations_eq _ hrecord hcr, hrecord, Option.getD_some, if_pos hp, if_pos hp]
      rfl
  | confirmed _ record confirm _ _ _ hrecord hcr hp hconfirm _ =>
      have hsome : ¬ record.result.passed.isEmpty = true := by rw [hp]; exact nofun
      rw [recordViolations_eq _ hrecord hcr, hrecord, Option.getD_some, if_neg hsome, if_neg hsome,
        hconfirm, confirmViolations_eq, Option.getD_some]

/-! ## In the report -/

section RedTexts

variable {record confirm : PhaseRun} {lost : Bool} {t : String}

/-- An error of the recording is told unless tests were lost and none is said to have failed. -/
theorem mem_recordReds_iff :
    t ∈ recordReds record lost ↔
      (t = "Tests failed during RECORDING mode:" ∧ record.result.failed.isEmpty = false) ∨
      (t = "Several tests got terminated during RECORDING mode." ∧ lost = true) ∨
      (t = "Errors occurred during RECORDING mode. Please fix them to complete your PR." ∧
        record.exitError.isSome = true ∧
        ¬ (record.result.failed.isEmpty = true ∧ lost = true)) ∨
      (t = "Please fix these to complete your PR." ∧ record.result.failed.isEmpty = false) := by
  unfold recordReds
  cases record.result.failed.isEmpty <;> cases lost <;> cases record.exitError.isSome <;> simp

/-- An error of the confirming process is told only if nothing else is. -/
theorem mem_confirmReds_iff :
    t ∈ confirmReds confirm ↔
      ((t = "The provider crashed while running the VCR tests in REPLAYING mode after recording" ∨
        t = "Please fix it to complete your PR") ∧ confirm.result.crashed = true) ∨
      (t = "Tests failed when rerunning REPLAYING mode:" ∧ confirm.result.crashed = false ∧
        confirm.result.failed.isEmpty = false) ∨
      (t = ("Errors occurred during REPLAYING mode after recording. "
          ++ "Please fix them to complete your PR.") ∧ confirm.result.crashed = false ∧
        confirm.result.failed.isEmpty = true ∧ confirm.exitError.isSome = true) := by
  unfold confirmReds
  cases confirm.result.crashed <;> cases confirm.result.failed.isEmpty <;>
    cases confirm.exitError.isSome <;> simp

end RedTexts

/-- What the report says of a trouble of the recording is not said of the replay behind it. -/
theorem text_notMem_confirmReds {k : Trouble} {record confirm : PhaseRun} {lost : Bool} {asked : Nat}
    (hk : k ∈ recordTroubles record lost asked) : k.text ∉ confirmReds confirm := by
  rw [mem_confirmReds_iff]
  obtain ⟨rfl, -⟩ | ⟨rfl, -⟩ | ⟨e, rfl, -⟩ := mem_recordTroubles_iff.1 hk
  · simp [Trouble.text]
  · simp [Trouble.text]
  · simp [Trouble.text]

/-- What the report says of a trouble of the replay behind the recording is not said of that. -/
theorem text_notMem_recordReds {k : Trouble} {record confirm : PhaseRun} {lost : Bool}
    (hk : k ∈ confirmTroubles confirm) : k.text ∉ recordReds record lost := by
  rw [mem_recordReds_iff]
  obtain ⟨rfl, -⟩ | ⟨rfl, -⟩ | ⟨e, rfl, -⟩ := mem_confirmTroubles_iff.1 hk
  · simp [Trouble.text]
  · simp [Trouble.text]
  · simp [Trouble.text]

/-- **The report tells a trouble of the run exactly if it is not hidden.** -/
theorem text_mem_redTexts_iff {s : RunState} {k : Trouble} (hk : k ∈ troubles s) :
    k.text ∈ redTexts (s.record.getD .empty) (s.confirm.getD .empty) s.hasTerminatedTests ↔
      ¬ k.Hidden s := by
  unfold redTexts
  unfold troubles at hk
  rw [List.mem_append]
  rcases List.mem_append.1 hk with hrecord | hconfirm
  · have hother : k.text ∉ (if (s.record.getD .empty).result.passed.isEmpty = true then []
        else confirmReds (s.confirm.getD .empty)) := by
      split
      · exact List.not_mem_nil
      · exact text_notMem_confirmReds hrecord
    rw [or_iff_right hother, mem_recordReds_iff]
    obtain ⟨rfl, hfailed⟩ | ⟨rfl, hlost⟩ | ⟨e, rfl, he⟩ := mem_recordTroubles_iff.1 hrecord
    · simp [Trouble.text, Trouble.Hidden, hfailed]
    · simp [Trouble.text, Trouble.Hidden, hlost]
    · simp [Trouble.text, Trouble.Hidden, he]
  · by_cases hp : (s.record.getD .empty).result.passed.isEmpty = true
    · rw [if_pos hp] at hconfirm
      exact absurd hconfirm List.not_mem_nil
    · rw [if_neg hp] at hconfirm
      rw [if_neg hp, or_iff_left (text_notMem_recordReds hconfirm), mem_confirmReds_iff]
      obtain ⟨rfl, hcrashed⟩ | ⟨rfl, hcrashed, hfailed⟩ | ⟨e, rfl, hcrashed, he⟩ :=
        mem_confirmTroubles_iff.1 hconfirm
      · simp [Trouble.text, Trouble.Hidden, hcrashed]
      · simp [Trouble.text, Trouble.Hidden, hcrashed, hfailed]
      · simp [Trouble.text, Trouble.Hidden, hcrashed, he]

/-! ## Runs -/

variable {config : Config} {rules : SurfaceRules} {request : ChangeRequest} {t : Transcript}

/-- **A run that is carried out to the end posts a report. Of its violations exactly those of hidden
    troubles are left out**: the others have their line in the report, and the hidden ones do not have
    it, unless a name that holds a newline happens to spell it. -/
theorem violations_reported_iff {o : Outcome} (h : Runs (presubmit config rules request) t (.ok o))
    (hdone : o.state.terminal = some .done) :
    ∃ text, o.report = some text ∧ t.reports = [text] ∧
      o.verdict.violations = (troubles o.state).map Trouble.violation ∧
      (∀ k ∈ troubles o.state, ¬ k.Hidden o.state →
        k.line.toList ∈ Text.splitLines text.toList) ∧
      ((ReportContext.of config request.target).OneLine → o.state.OneLine →
        ∀ k ∈ troubles o.state, k.Hidden o.state →
          k.line.toList ∉ Text.splitLines text.toList) := by
  cases course_presubmit h with
  | idle hs => cases hdone
  | @finished hs dir a b c ts state hw =>
      have hfinished : Finished state := hw.finished
      obtain ⟨replay, hr, hc, hf⟩ := hfinished.replay_of_done hdone
      let lines : Lines := [""].intercalate (sections state (.of config request.target))
      have hlines : lines? state (.of config request.target) = some lines := by
        unfold lines?
        rw [hdone]
      have hreport : report? state (.of config request.target) = some (Report.text lines) := by
        unfold report?
        rw [hlines]
        rfl
      have hred : ∀ k ∈ troubles state, k.line ∈ lines ↔ ¬ k.Hidden state := by
        intro k hk
        rw [← text_mem_redTexts_iff hk]
        exact reds_sections hr hf k.text
      refine ⟨Report.text lines, hreport, ?_, ?_, ?_, ?_⟩
      · rw [conclusion_eq hreport]
        simp [fetchRequest, hw.quiet.reports_eq]
      · show (finalVerdict state).violations = _
        rw [hfinished.finalVerdict_eq]
        exact violationsOf_eq hfinished hdone
      · intro k hk hshown
        exact mem_splitLines_text_of_mem k.oneLine_line ((hred k hk).2 hshown)
      · intro hctx hnames k hk hhidden hmem
        obtain ⟨lines', hlines', htells⟩ := hfinished.tells hctx hnames hw.oneLine_unexercised
        obtain rfl : lines = lines' := Option.some.inj (hlines.symm.trans hlines')
        have hline : k.line ∈ lines := (mem_splitLines_text k.line_ne htells.oneLine).1 hmem
        exact (hred k hk).1 hline hhidden

/-- A recording that could not build its tests: the verdict tells of the build, and the report does
    not. -/
theorem violations_reported_unbuilt :
    ∃ t o text, Runs (presubmit sampleConfig sampleRules sampleRequest) t (.ok o) ∧
      o.state.terminal = some .done ∧ o.report = some text ∧
      "RECORDING mode error: " ++ "build failed" ∈ o.verdict.violations ∧
      recordErrorLine.toList ∉ Text.splitLines text.toList := by
  have h := runs_sampleRun [samplePhase .fail] [PhaseRun.empty.withError "build failed"] .willing
  obtain ⟨o, ho, hdone, hnames, htrouble, hhidden⟩ : ∃ o,
      (sampleRun [samplePhase .fail] [PhaseRun.empty.withError "build failed"] .willing).1 = .ok o ∧
      o.state.terminal = some .done ∧ o.state.OneLine ∧
      Trouble.recordError "build failed" ∈ troubles o.state ∧
      (Trouble.recordError "build failed").Hidden o.state :=
    ⟨_, rfl, rfl, ⟨by decide, by decide, by decide, by decide⟩, by decide, by decide, by decide⟩
  have hctx : (ReportContext.of sampleConfig sampleRequest.target).OneLine :=
    ⟨by decide, by decide, by decide⟩
  rw [ho] at h
  obtain ⟨text, hreport, -, hviolations, -, habsent⟩ := violations_reported_iff h hdone
  refine ⟨_, o, text, h, hdone, hreport, ?_, ?_⟩
  · rw [hviolations]
    exact List.mem_map_of_mem htrouble
  · rw [← Trouble.line_recordError "build failed"]
    exact habsent hctx hnames _ htrouble hhidden

end Presubmit

end CassetteGate
