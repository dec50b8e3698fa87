import CassetteGate.Proofs.Presubmit.ReviewPosts
import CassetteGate.Proofs.Report.Success
import CassetteGate.Proofs.Verdict

/-!
# `Proofs.Presubmit.ReportedSuccess` — the report of a run says what its verdict says

The report of a run and its verdict are read off one state, each by a case analysis of its own. The
verdict looks for reasons against passing; the report looks for something to say and, finding nothing,
says that all tests passed. On an arbitrary state the two can disagree: fresh cassettes that were never
replayed are a reason against passing, where the report takes the missing replay for an empty one. A
run leaves out that replay only if nothing passed in the recording. Then the recording is not clean
either, since tests had failed before it (`RunState.passed_of_recordingClean`), so on the states that
runs do return, the report and the verdict agree (`Finished.tells`).

## Contents
- **`Finished.tells`**: what the report on a returned state tells.
- **`reported_allPassed_iff`**: the same for the texts that runs post.
-/

namespace CassetteGate

namespace Presubmit

open Pipeline Report

variable {config : Config} {rules : SurfaceRules} {request : ChangeRequest} {dir : Path}
  {state : RunState} {ctx : ReportContext} {ts t : Transcript}

/-! ## Added tests

Only the replay is compared with the diffs, and what is found stays as it is from there on. -/

theorem ReplayWork.oneLine_unexercised {surface : ChangeSurface}
    (h : ReplayWork config rules request dir surface ts (.ok state)) :
    state.unexercised.OneLine := by
  cases h with
  | crashed runs l hl hc => exact ⟨nofun, nofun⟩
  | clean runs l hl hc hf => exact CassetteGate.oneLine_unexercised _ _ _
  | recording runs l hl hc hf hw =>
      obtain ⟨-, -, -, hadded⟩ := hw.kept
      rw [hadded]
      exact CassetteGate.oneLine_unexercised _ _ _

/-! ## Returned states -/

theorem not_passed_of_crashed {replay : PhaseRun} (hr : state.replay = some replay)
    (hc : replay.result.crashed = true) : ¬ (Verdict.of state).passed = true := by
  rw [Verdict.passed_iff]
  rintro ⟨replay', hr', hpass⟩
  obtain rfl := Option.some.inj (hr.symm.trans hr')
  rcases hpass with hclean | ⟨hnc, -⟩
  · exact absurd (hc.symm.trans (PhaseRun.isClean_iff.1 hclean).2.1) nofun
  · exact absurd (hc.symm.trans hnc) nofun

theorem passed_iff_of_clean {replay : PhaseRun} (hr : state.replay = some replay)
    (hc : replay.result.crashed = false) (hf : replay.result.failed.isEmpty = true) :
    (Verdict.of state).passed = true ↔ replay.exitError = none := by
  rw [Verdict.passed_iff, hr]
  simp [PhaseRun.isClean_iff, hc, hf]

theorem passed_iff_of_failed {replay : PhaseRun} (hr : state.replay = some replay)
    (hc : replay.result.crashed = false) (hf : replay.result.failed.isEmpty = false) :
    (Verdict.of state).passed = true ↔
      state.recordingClean = true ∧ ∃ confirm, state.confirm = some confirm ∧
        confirm.isClean = true := by
  rw [Verdict.passed_iff, hr]
  simp [PhaseRun.isClean_iff, hc, hf]

/-- **On every state that a run returns, the report and the verdict agree.** -/
theorem Finished.tells (h : Finished state) (hctx : ctx.OneLine) (hnames : state.OneLine)
    (hadded : state.unexercised.OneLine) :
    ∃ lines, lines? state ctx = some lines ∧ Tells lines ((Verdict.of state).passed = true) := by
  unfold lines?
  cases h with
  | replayPanicked replay hr hc hrecord hconfirm ht =>
      rw [ht]
      have hfails := not_passed_of_crashed hr hc
      exact ⟨_, rfl, (Tells.of_silent (silent_crash hctx _)).congr (iff_of_false id hfails)⟩
  | replayedClean replay hr hc hf hrecord hconfirm ht =>
      rw [ht]
      have htells := tells_sections_of_clean hctx hnames hadded hr hf
      exact ⟨_, rfl, htells.congr (passed_iff_of_clean hr hc hf).symm⟩
  | recordPanicked replay record hr hc hf hrecord hcr hconfirm ht =>
      rw [ht]
      have hfails : ¬ (Verdict.of state).passed = true := by
        rw [passed_iff_of_failed hr hc hf, hconfirm]
        rintro ⟨-, confirm, hnone, -⟩
        cases hnone
      exact ⟨_, rfl, (Tells.of_silent (silent_crash hctx _)).congr (iff_of_false id hfails)⟩
  | unrecorded replay record hr hc hf hrecord hcr hp hconfirm ht =>
      rw [ht]
      refine ⟨_, rfl, (tells_sections_of_failed hctx hnames hadded hr hf).congr ?_⟩
      rw [passed_iff_of_failed hr hc hf, hconfirm, hrecord]
      -- the report finds the missing replay clean, but then the recording is not
      constructor
      · rintro ⟨hnone, hlost, hexit, -⟩
        have hclean : state.recordingClean = true :=
          RunState.recordingClean_iff.2
            ⟨record, hrecord, PhaseRun.isClean_iff.2 ⟨hnone, hcr, hexit⟩, hlost⟩
        have hsome := RunState.passed_of_recordingClean hr hf hrecord hclean
        exact absurd (hsome.symm.trans hp) nofun
      · rintro ⟨-, confirm, hnone, -⟩
        cases hnone
  | confirmed replay record confirm hr hc hf hrecord hcr hp hconfirm ht =>
      rw [ht]
      refine ⟨_, rfl, (tells_sections_of_failed hctx hnames hadded hr hf).congr ?_⟩
      rw [passed_iff_of_failed hr hc hf, hconfirm, hrecord, RunState.recordingClean_iff, hrecord]
      simp [PhaseRun.isClean_iff, hcr, and_assoc, and_comm, and_left_comm]

/-! ## Posted reports -/

/-- A run that posts a report was done, and the report is the one on its state. -/
theorem Course.reported {r : Except Failure Outcome} (h : Course config rules request t r)
    {text : String} (htext : text ∈ t.reports) :
    ∃ o, r = .ok o ∧ Finished o.state ∧ o.state.unexercised.OneLine ∧
      o.report = some text ∧ report? o.state (.of config request.target) = some text := by
  cases h with
  | idle hs => simp at htext
  | unfetched hs e => simp [fetchRequest] at htext
  | abandoned hs dir a b hw => simp [fetchRequest, hw.quiet.reports_eq] at htext
  | @finished hs dir a b c ts state hw =>
      obtain ⟨posted, hposted⟩ := hw.finished.exists_report (.of config request.target)
      rw [conclusion_eq hposted] at htext
      obtain rfl : text = posted := by simpa [fetchRequest, hw.quiet.reports_eq] using htext
      exact ⟨_, rfl, hw.finished, hw.oneLine_unexercised, hposted, hposted⟩

/-- **The report that a run posts has the line that all tests passed exactly if the verdict on the
    state that it returns is passed**, whatever the collaborators answer. -/
theorem reported_allPassed_iff {r : Except Failure Outcome} {text : String}
    (h : Runs (presubmit config rules request) t r) (htext : text ∈ t.reports)
    (hctx : (ReportContext.of config request.target).OneLine)
    (hnames : ∀ o, r = .ok o → o.state.OneLine) :
    ∃ o, r = .ok o ∧ o.report = some text ∧
      ((colored "green" "All tests passed!").toList ∈ Text.splitLines text.toList ↔
        (Verdict.of o.state).passed = true) := by
  obtain ⟨o, rfl, hstate, hadded, hreport, hposted⟩ := (course_presubmit h).reported htext
  obtain ⟨lines, hlines, htells⟩ := hstate.tells hctx (hnames o rfl) hadded
  refine ⟨o, rfl, hreport, ?_⟩
  unfold report? at hposted
  rw [hlines] at hposted
  obtain rfl : Report.text lines = text := Option.some.inj hposted
  rw [← htells.mem_iff]
  exact mem_splitLines_text allPassed_ne_empty htells.oneLine

/-- A test that was repaired by a new recording: the report on it has the line. -/
theorem reported_allPassed_repaired :
    ∃ t o text, Runs (presubmit sampleConfig sampleRules sampleRequest) t (.ok o) ∧
      text ∈ t.reports ∧ (Verdict.of o.state).passed = true ∧
      (colored "green" "All tests passed!").toList ∈ Text.splitLines text.toList := by
  have h := runs_sampleRun [samplePhase .fail] [samplePhase .pass, samplePhase .pass] .willing
  obtain ⟨o, text, ho, htext, hnames, hpassed⟩ : ∃ o text,
      (sampleRun [samplePhase .fail] [samplePhase .pass, samplePhase .pass] .willing).1 = .ok o ∧
      text ∈ (sampleRun [samplePhase .fail] [samplePhase .pass, samplePhase .pass]
        .willing).2.reports ∧
      o.state.OneLine ∧ (Verdict.of o.state).passed = true :=
    ⟨_, _, rfl, List.mem_cons_self, ⟨by decide, by decide, by decide, by decide⟩, by decide⟩
  have hctx : (ReportContext.of sampleConfig sampleRequest.target).OneLine :=
    ⟨by decide, by decide, by decide⟩
  rw [ho] at h
  obtain ⟨o', ho', hreport, hline⟩ := reported_allPassed_iff h htext hctx fun o' ho' => by
    rwa [← Except.ok.inj ho']
  obtain rfl := Except.ok.inj ho'
  exact ⟨_, o, text, h, htext, hpassed, hline.2 hpassed⟩

end Presubmit

end CassetteGate
