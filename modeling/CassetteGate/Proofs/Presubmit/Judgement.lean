import CassetteGate.Proofs.Presubmit.Finished
import CassetteGate.Proofs.Verdict

/-!
# `Proofs.Presubmit.Judgement` — what a passed verdict stands for

A change that passes is merged on the strength of its verdict, so a passed verdict should stand for
two things: in no phase did the process that runs the tests give trouble, and whatever was recorded
was seen to replay. The verdict falls short of each in one kind of run, and only there.

* An exit error of the replay counts if no test failed in the replay. If some did, the verdict goes by
  their recording alone, and tells nothing of packages that were not built. Exit errors of the later
  phases always count.
* The replay of fresh cassettes counts if no test failed in it. Nothing asks whether the recorded
  tests are among those that passed, so a test that was skipped there, or not reported, is passed
  over.

## Contents
- **`RunState.Sound`**, **`RunState.ErrorMasked`**, **`passed_sound_iff`**: trouble in a phase.
- **`RunState.AllConfirmed`**, **`RunState.LeavesOut`**, **`passed_allConfirmed_iff`**: recorded
  tests.
-/

namespace CassetteGate

namespace RunState

/-! ## Trouble in a phase -/

/-- The phases that were run. -/
def phases (s : RunState) : List PhaseRun := s.replay.toList ++ s.record.toList ++ s.confirm.toList

/-- No phase crashed or gave an exit error. -/
def Sound (s : RunState) : Prop :=
  ∀ run ∈ s.phases, run.result.crashed = false ∧ run.exitError = none

/-- The replay gave an exit error beside failed tests, and all the rest of the run went well. -/
def ErrorMasked (s : RunState) : Prop :=
  ∃ replay confirm reason, s.replay = some replay ∧ replay.exitError = some reason ∧
    replay.result.crashed = false ∧ replay.result.failed.isEmpty = false ∧
    s.recordingClean = true ∧ s.confirm = some confirm ∧ confirm.isClean = true

/-! ## Recorded tests -/

/-- Every test that was recorded passed in the replay of its cassette. -/
def AllConfirmed (s : RunState) : Prop :=
  ∃ record confirm, s.record = some record ∧ s.confirm = some confirm ∧
    ∀ test ∈ record.result.passed, test ∈ confirm.result.passed

/-- All went well from the recording on, but some test that was recorded neither passed nor failed in
    the replay of its cassette. -/
def LeavesOut (s : RunState) : Prop :=
  s.recordingClean = true ∧
  ∃ record confirm, s.record = some record ∧ s.confirm = some confirm ∧ confirm.isClean = true ∧
    ∃ test ∈ record.result.passed, test ∉ confirm.result.passed ∧ test ∉ confirm.result.failed

end RunState

namespace Presubmit

open Pipeline

variable {config : Config} {rules : SurfaceRules} {request : ChangeRequest} {state : RunState}
  {t : Transcript} {o : Outcome}

/-! ## Trouble in a phase -/

/-- Passed with an exit error of the replay. -/
theorem passed_of_errorMasked (h : state.ErrorMasked) : (Verdict.of state).passed = true := by
  obtain ⟨replay, confirm, reason, hreplay, -, hc, hf, hrecord, hconfirm, hclean⟩ := h
  exact Verdict.passed_iff.2 ⟨replay, hreplay, Or.inr ⟨hc, hf, hrecord, confirm, hconfirm, hclean⟩⟩

theorem not_sound_of_errorMasked (h : state.ErrorMasked) : ¬ state.Sound := by
  obtain ⟨replay, confirm, reason, hreplay, herror, -⟩ := h
  intro hsound
  have hmem : replay ∈ state.phases := by simp [RunState.phases, hreplay]
  exact absurd (herror.symm.trans (hsound replay hmem).2) nofun

/-- In a run that passes, nothing but an exit error of the replay was passed over. -/
theorem Finished.sound_of_passed (h : Finished state) (hpassed : (Verdict.of state).passed = true) :
    state.Sound ∨ state.ErrorMasked := by
  obtain ⟨replay, hreplay, hclean | ⟨hc, hf, hrecord, confirm, hconfirm, hcclean⟩⟩ :=
    Verdict.passed_iff.1 hpassed
  · -- the replay was the only phase
    obtain ⟨hnone, hc, herror⟩ := PhaseRun.isClean_iff.1 hclean
    obtain ⟨hrecord, hconfirm⟩ := h.later_phases_eq_none hreplay hnone
    refine Or.inl fun run hrun => ?_
    simp only [RunState.phases, hreplay, hrecord, hconfirm, Option.toList, List.append_nil,
      List.mem_singleton] at hrun
    rw [hrun]
    exact ⟨hc, herror⟩
  · -- the later phases are clean, and of the replay only the exit error is not known
    cases herror : replay.exitError with
    | some reason =>
        exact Or.inr ⟨replay, confirm, reason, hreplay, herror, hc, hf, hrecord, hconfirm, hcclean⟩
    | none =>
        obtain ⟨record, hsome, hrclean, -⟩ := RunState.recordingClean_iff.1 hrecord
        obtain ⟨-, hrc, hrerror⟩ := PhaseRun.isClean_iff.1 hrclean
        obtain ⟨-, hcc, hcerror⟩ := PhaseRun.isClean_iff.1 hcclean
        refine Or.inl fun run hrun => ?_
        simp only [RunState.phases, hreplay, hsome, hconfirm, Option.toList, List.mem_append,
          List.mem_singleton] at hrun
        rcases hrun with (rfl | rfl) | rfl
        · exact ⟨hc, herror⟩
        · exact ⟨hrc, hrerror⟩
        · exact ⟨hcc, hcerror⟩

/-- **A passed verdict stands for phases without trouble**, but for an exit error of a replay with
    failures that were recorded well. -/
theorem passed_sound_iff (h : Runs (presubmit config rules request) t (.ok o))
    (ht : o.state.terminal ≠ some .nothingToTest) :
    (o.verdict.passed = true → o.state.Sound) ↔ ¬ o.state.ErrorMasked := by
  obtain ⟨hstate, hverdict⟩ := finished_of_runs h ht
  rw [hverdict]
  constructor
  · intro hsound hmasked
    exact not_sound_of_errorMasked hmasked (hsound (passed_of_errorMasked hmasked))
  · intro hmasked hpassed
    exact (hstate.sound_of_passed hpassed).resolve_right hmasked

/-- A run that passes although one package was not built: a test of the other one failed, was
    recorded and replays. -/
theorem passed_unbuilt :
    ∃ t o, Runs (presubmit sampleConfig sampleRules sampleRequest) t (.ok o) ∧
      o.state.terminal ≠ some .nothingToTest ∧ o.verdict.passed = true ∧ ¬ o.state.Sound := by
  have h := runs_sampleRun [samplePhase .fail, PhaseRun.empty.withError "build failed"]
    [samplePhase .pass, samplePhase .pass] .willing
  obtain ⟨o, ho, ht, hpassed, hmasked⟩ : ∃ o,
      (sampleRun [samplePhase .fail, PhaseRun.empty.withError "build failed"]
        [samplePhase .pass, samplePhase .pass] .willing).1 = .ok o ∧
      o.state.terminal ≠ some .nothingToTest ∧ o.verdict.passed = true ∧ o.state.ErrorMasked :=
    ⟨_, rfl, by decide, by decide, _, _, _, rfl, rfl, by decide, by decide, by decide, rfl, by decide⟩
  rw [ho] at h
  refine ⟨_, o, h, ht, hpassed, fun hsound => ?_⟩
  exact (passed_sound_iff h ht).1 (fun _ => hsound) hmasked

/-! ## Recorded tests -/

/-- **A passed verdict of a run that recorded stands for recorded tests that replay**, but for those
    that the replay of their cassettes left out. -/
theorem passed_allConfirmed_iff (h : Runs (presubmit config rules request) t (.ok o))
    (hdone : o.state.terminal = some .done) :
    (o.verdict.passed = true → o.state.AllConfirmed) ↔ ¬ o.state.LeavesOut := by
  obtain ⟨hstate, hverdict⟩ := finished_of_runs h (by rw [hdone]; nofun)
  obtain ⟨replay, hreplay, hc, hf⟩ := hstate.replay_of_done hdone
  rw [hverdict, Verdict.passed_iff]
  constructor
  · rintro hall ⟨hrecording, record, confirm, hrecord, hconfirm, hclean, test, hin, hout, -⟩
    obtain ⟨record', confirm', hrecord', hconfirm', hin'⟩ :=
      hall ⟨replay, hreplay, Or.inr ⟨hc, hf, hrecording, confirm, hconfirm, hclean⟩⟩
    obtain rfl := Option.some.inj (hrecord.symm.trans hrecord')
    obtain rfl := Option.some.inj (hconfirm.symm.trans hconfirm')
    exact hout (hin' test hin)
  · rintro hnone ⟨replay', hreplay', hpassed⟩
    obtain rfl := Option.some.inj (hreplay.symm.trans hreplay')
    rcases hpassed with hclean | ⟨-, -, hrecording, confirm, hconfirm, hclean⟩
    · exact absurd (hf.symm.trans (PhaseRun.isClean_iff.1 hclean).1) nofun
    · obtain ⟨record, hrecord, -, -⟩ := RunState.recordingClean_iff.1 hrecording
      refine ⟨record, confirm, hrecord, hconfirm, fun test hin => ?_⟩
      by_cases hout : test ∈ confirm.result.passed
      · exact hout
      · -- nothing failed, so the test was left out
        have hfailed : test ∉ confirm.result.failed :=
          NameSet.isEmpty_iff.1 (PhaseRun.isClean_iff.1 hclean).1 test
        refine absurd ⟨hrecording, record, confirm, hrecord, hconfirm, hclean, ?_⟩ hnone
        exact ⟨test, hin, hout, hfailed⟩

/-- A run that passes although the test that it recorded was skipped in the replay of its cassette. -/
theorem passed_skipped :
    ∃ t o, Runs (presubmit sampleConfig sampleRules sampleRequest) t (.ok o) ∧
      o.state.terminal = some .done ∧ o.verdict.passed = true ∧ ¬ o.state.AllConfirmed := by
  have h := runs_sampleRun [samplePhase .fail] [samplePhase .pass, samplePhase .skip] .willing
  obtain ⟨o, ho, hdone, hpassed, hleft⟩ : ∃ o,
      (sampleRun [samplePhase .fail] [samplePhase .pass, samplePhase .skip] .willing).1 = .ok o ∧
      o.state.terminal = some .done ∧ o.verdict.passed = true ∧ o.state.LeavesOut :=
    ⟨_, rfl, by decide, by decide, by decide, _, _, rfl, rfl, by decide, "TestAccDisk", by decide,
      by decide, by decide⟩
  rw [ho] at h
  refine ⟨_, o, h, hdone, hpassed, fun hall => ?_⟩
  exact (passed_allConfirmed_iff h hdone).1 (fun _ => hall) hleft

end Presubmit

end CassetteGate
