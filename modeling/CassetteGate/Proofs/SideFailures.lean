import CassetteGate.Proofs.Nightly.Course
import CassetteGate.Proofs.Pipeline.Steady

/-!
# `Proofs.SideFailures` — what fails on the side does not change a run

Logs, comments and statuses are there for people. Whether they arrive is written to the event log and
is forgotten: nothing that a run does next looks at it, and nothing that it returns does. So two runs
for the same request may differ in every one of these answers, and they still make the same calls, in
the same order and with the same arguments, and return the same outcome or fail in the same way.

Each stage of `Pipeline.Presubmit` and `Pipeline.Nightly` is shown to be steady here, in the order in
which the stages are defined, from the steadiness of its operations. A stage is only ever a sequence of
them, a choice by what is already known, or a recursion over a list, so its proof has the shape of its
text. The upload that publishes a nightly recording is no exception: the run goes on if it is refused,
but the outcome tells of it, and the store is one of the two that have to answer alike.

## Contents
- **`steady_presubmit`**, **`steady_nightly`**, from their stages.
- **`side_failures_ignored`**: two runs that differ in answers on the side only.
-/

namespace CassetteGate

open Pipeline

/-! ## The run for a change -/

namespace Presubmit

variable {config : Config} {rules : SurfaceRules} {request : ChangeRequest} {surface : ChangeSurface}
  {dir : Path} {state : RunState}

theorem steady_announce (post : BuildState) : Steady (announce config request.target post) :=
  steady_postStatus _

theorem steady_uploadPhaseLogs (mode : TestMode) (parallel after : Bool) :
    Steady (uploadPhaseLogs config request.target mode parallel after) :=
  steady_uploadLogs _

/-- Whether there is a report is known from the state. -/
theorem steady_conclude : Steady (conclude config request state) := by
  have final : ∀ report : Option String, Steady (do
      announce config request.target (Verdict.of state).buildState
      return (state, report)) := by
    intro report
    exact (steady_announce _).bind fun _ => steady_pure _
  unfold conclude
  cases Report.report? state (.of config request.target) with
  | none => exact final none
  | some text => exact (steady_postReport _ _).bind fun _ => final (some text)

/-- A warning, and then the conclusion. -/
theorem steady_warned (event : Event) :
    Steady (emit event >>= fun _ => conclude config request state) :=
  (steady_emit _).bind fun _ => steady_conclude

/-- By induction over the directories; each of them is one call. -/
theorem steady_runEachDir (base : RunOptions) (dirs : List String) :
    Steady (runEachDir base dirs) := by
  induction dirs with
  | nil => exact steady_pure []
  | cons d dirs ih =>
      exact (steady_runTests _).bind fun run => ih.bind fun runs => steady_pure (run :: runs)

theorem steady_parallelPhase (mode : TestMode) (testDirs tests : List String) :
    Steady (parallelPhase config dir mode testDirs tests) :=
  (steady_emit _).bind fun _ => (steady_runEach _).bind fun run =>
    (steady_emit _).bind fun _ => steady_pure run

theorem steady_replayPackages : Steady (replayPackages config rules surface dir) := by
  have final : ∀ replay : PhaseRun, Steady (do
      emit (.phaseFinished .replaying replay)
      return replay) := by
    intro replay
    exact (steady_emit _).bind fun _ => steady_pure replay
  unfold replayPackages
  refine (steady_emit _).bind fun _ => ?_
  by_cases hs : surface.fullSweep = true
  · simp only [if_pos hs]
    exact (steady_runTests _).bind final
  · simp only [if_neg hs]
    exact ((steady_runEachDir _ _).map _).bind final

theorem steady_confirmStage (recorded : List String) :
    Steady (confirmStage config request dir state recorded) := by
  unfold confirmStage
  refine (steady_upload _ _ _ _).bind fun _ => (steady_emit _).bind fun _ => ?_
  refine (steady_parallelPhase _ _ _).bind fun confirm => ?_
  refine (steady_uploadPhaseLogs _ _ _).bind fun _ => ?_
  by_cases hc : confirm.result.crashed = true
  · rw [if_pos hc]
    exact steady_warned _
  · rw [if_neg hc]
    exact steady_conclude

theorem steady_recordStage (failed : List String) :
    Steady (recordStage config request dir state failed) := by
  unfold recordStage
  refine (steady_parallelPhase _ _ _).bind fun record => ?_
  refine (steady_uploadPhaseLogs _ _ _).bind fun _ => ?_
  by_cases hc : record.result.crashed = true
  · rw [if_pos hc]
    exact steady_warned _
  · rw [if_neg hc]
    by_cases hp : record.result.passed.isEmpty = true
    · rw [if_pos hp]
      exact steady_warned _
    · rw [if_neg hp]
      exact steady_confirmStage _

theorem steady_replayStage : Steady (replayStage config rules request surface dir) := by
  unfold replayStage
  refine steady_replayPackages.bind fun replay => ?_
  refine (steady_uploadPhaseLogs _ _ _).bind fun _ => ?_
  by_cases hc : replay.result.crashed = true
  · rw [if_pos hc]
    exact steady_warned _
  · rw [if_neg hc]
    by_cases hf : replay.result.failed.isEmpty = true
    · rw [if_pos hf]
      exact steady_conclude
    · rw [if_neg hf]
      exact steady_recordStage _

theorem steady_emitViolations (violations : List String) : Steady (emitViolations violations) := by
  induction violations with
  | nil => exact steady_pure ()
  | cons v vs ih => exact (steady_emit _).bind fun _ => ih

theorem steady_finish (report : Option String) : Steady (finish state report) := by
  have final : Steady (do
      emitViolations (finalVerdict state).violations
      return ({ state, verdict := finalVerdict state, report } : Outcome)) :=
    (steady_emitViolations _).bind fun _ => steady_pure _
  unfold finish
  cases state.terminal with
  | none => exact final
  | some terminal => exact (steady_emit _).bind fun _ => final

/-- The failure that is announced is the one that ends the run. -/
theorem steady_afterFetch : Steady (afterFetch config rules request surface dir) := by
  unfold afterFetch
  refine (steady_announce _).bind fun _ => ?_
  have hwork : Steady (tryCatch (replayStage config rules request surface dir) fun failure => do
      announce config request.target .failure
      throw failure) :=
    steady_replayStage.tryCatch fun failure =>
      (steady_announce _).bind fun _ => steady_throw failure
  exact hwork.bind fun told => steady_finish told.2

theorem steady_presubmit : Steady (presubmit config rules request) := by
  unfold presubmit
  refine (steady_emit _).bind fun _ => ?_
  by_cases hs : (rules.surface request.changedFiles).isEmpty = true
  · rw [if_pos hs]
    exact (steady_emit _).bind fun _ => steady_finish none
  · rw [if_neg hs]
    exact (steady_fetch _ _ _).bind fun dir => steady_afterFetch

end Presubmit

/-! ## The refresh -/

namespace Nightly

variable {config : Config} {request : RefreshRequest} {dir : Path}

theorem steady_backUp : Steady (backUp config request dir) :=
  (steady_upload _ _ _ _).bind fun _ => steady_emit _

theorem steady_replay : Steady (replay config request dir) :=
  (steady_emit _).bind fun _ => (steady_runTests _).bind fun run =>
    (steady_emit _).bind fun _ => (steady_uploadLogs _).bind fun _ => steady_pure run

theorem steady_record (tests : List String) : Steady (Nightly.record config request dir tests) :=
  (steady_emit _).bind fun _ => (steady_runEach _).bind fun run =>
    (steady_emit _).bind fun _ => (steady_uploadLogs _).bind fun _ => steady_pure run

theorem steady_publish (run : PhaseRun) : Steady (publish config dir run) := by
  unfold publish
  by_cases hp : run.result.passed.isEmpty = true
  · rw [if_pos hp]
    exact (steady_emit _).bind fun _ => steady_pure false
  · rw [if_neg hp]
    exact steady_tryUpload _ _ _

theorem steady_repair (o : RefreshOutcome) : Steady (repair config request dir o) := by
  unfold repair
  refine (steady_record _).bind fun run => (steady_publish run).bind fun uploaded => ?_
  by_cases hc : run.result.crashed = true
  · rw [if_pos hc]
    exact (steady_emit _).bind fun _ => steady_pure _
  · rw [if_neg hc]
    exact steady_pure _

theorem steady_nightly : Steady (nightly config request) := by
  unfold nightly
  refine (steady_fetch _ _ _).bind fun dir => steady_backUp.bind fun _ => ?_
  refine steady_replay.bind fun run => ?_
  by_cases hc : (replayOutcome run).replay.result.crashed = true
  · rw [if_pos hc]
    exact (steady_emit _).bind fun _ => steady_pure _
  · rw [if_neg hc]
    by_cases hf : (replayOutcome run).replay.result.failed.isEmpty = true
    · rw [if_pos hf]
      exact steady_pure _
    · rw [if_neg hf]
      exact steady_repair _

end Nightly

/-! ## Two runs -/

open Presubmit (sampleRun runs_sampleRun samplePhase)

/-- **Failures on the side change nothing.** Two runs for the same change, or two refreshes of the same
    day, whose runner and cassette store answer alike ask for the same things in the same order and
    come out the same, whether or not logs, comments and statuses are accepted in either of them. -/
theorem side_failures_ignored :
    (∀ (config : Config) (rules : SurfaceRules) (request : ChangeRequest) (t t' : Transcript)
      (r r' : Except Failure Outcome), Runs (presubmit config rules request) t r →
      Runs (presubmit config rules request) t' r' → AnsweredAlike t.testCalls t'.testCalls →
      t.requests = t'.requests ∧ r = r') ∧
    (∀ (config : Config) (request : RefreshRequest) (t t' : Transcript)
      (r r' : Except Failure RefreshOutcome), Runs (nightly config request) t r →
      Runs (nightly config request) t' r' → AnsweredAlike t.testCalls t'.testCalls →
      t.requests = t'.requests ∧ r = r') := by
  constructor
  · intro config rules request t t' r r' h h' halike
    obtain ⟨-, hrequests, hr⟩ := Presubmit.steady_presubmit h h' halike
    exact ⟨hrequests, hr⟩
  · intro config request t t' r r' h h' halike
    obtain ⟨-, hrequests, hr⟩ := Nightly.steady_nightly h h' halike
    exact ⟨hrequests, hr⟩

/-- Stores at which no logs can be published, with a review platform that refuses every post. -/
def ScriptedStores.mute : ScriptedStores :=
  { ScriptedStores.willing with failLogs := true, failReport := true, failStatus := true }

/-- A change, and a refresh, whose three and two phases are carried out. Where everything on the side is
    refused the runs have more warnings to emit, and they are otherwise the same. -/
theorem side_failures_ignored_mute :
    (∃ t t' r r', Runs (presubmit Presubmit.sampleConfig Presubmit.sampleRules
        Presubmit.sampleRequest) t r ∧
      Runs (presubmit Presubmit.sampleConfig Presubmit.sampleRules Presubmit.sampleRequest) t' r' ∧
      AnsweredAlike t.testCalls t'.testCalls ∧ t.events.length < t'.events.length ∧
      t.requests = t'.requests ∧ r = r') ∧
    (∃ t t' r r', Runs (nightly Nightly.sampleConfig Nightly.sampleRequest) t r ∧
      Runs (nightly Nightly.sampleConfig Nightly.sampleRequest) t' r' ∧
      AnsweredAlike t.testCalls t'.testCalls ∧ t.events.length < t'.events.length ∧
      t.requests = t'.requests ∧ r = r') := by
  obtain ⟨hchange, hrefresh⟩ := side_failures_ignored
  constructor
  · have h := runs_sampleRun [samplePhase .fail] [samplePhase .pass, samplePhase .pass] .willing
    have h' := runs_sampleRun [samplePhase .fail] [samplePhase .pass, samplePhase .pass] .mute
    have halike := AnsweredAlike.refl
      (sampleRun [samplePhase .fail] [samplePhase .pass, samplePhase .pass] .willing).2.testCalls
    obtain ⟨hrequests, hr⟩ := hchange _ _ _ _ _ _ _ h h' halike
    exact ⟨_, _, _, _, h, h', halike, by decide, hrequests, hr⟩
  · have h := Nightly.runs_sampleRefresh (samplePhase .fail) (samplePhase .pass) .willing
    have h' := Nightly.runs_sampleRefresh (samplePhase .fail) (samplePhase .pass) .mute
    have halike := AnsweredAlike.refl
      (Nightly.sampleRefresh (samplePhase .fail) (samplePhase .pass) .willing).2.testCalls
    obtain ⟨hrequests, hr⟩ := hrefresh _ _ _ _ _ _ h h' halike
    exact ⟨_, _, _, _, h, h', halike, by decide, hrequests, hr⟩

end CassetteGate
