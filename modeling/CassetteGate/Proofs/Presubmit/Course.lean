import CassetteGate.Proofs.Presubmit.Steps

/-!
# `Proofs.Presubmit.Course` — every way a presubmit run can go

`Pipeline.Presubmit` says what a run does next; this file says what it can have done when it is
over. A run ends after any of its stages, so each stage has a predicate with one case for each of
its exits, and the last case of a stage hands over to the next one:

* `ReplayWork` — a replay call is refused, the provider crashes, nothing fails, or something does;
* `RecordWork` — the recording is refused, the provider crashes, nothing is recorded, or something is;
* `ConfirmWork` — the upload is refused, the confirming replay is refused, or it is carried out.

A stage relates the transcript of its *work* to the state that it leaves, or to the failure that ends
it. What is said to the review platform is no work: every state is concluded in the same way
(`Concluded`), and a failure is passed on. `Course` puts the fetch and the statuses around the work,
and `course_presubmit` shows that each run is one of these courses. What is proved about presubmit
runs is read off them by cases.

## Contents
- **`ConfirmWork`**, **`RecordWork`**, **`ReplayWork`**: the stages.
- **`concluded_confirmStage`**, **`concluded_recordStage`**, **`concluded_replayStage`**: a run of a
  stage is concluded work.
- **`Course`**, **`course_presubmit`**: the run.
- **`sampleRun`**: a rehearsal.
-/

namespace CassetteGate

namespace Presubmit

open Pipeline

/-! ## Stages -/

section Stages

variable (config : Config) (rules : SurfaceRules) (request : ChangeRequest) (dir : Path)

/-- The exchanges of a recording that is carried out, up to its logs. -/
def recordPart (state : RunState) (failed : List String) (record : PhaseRun)
    (l : Except ServiceFault Unit) : Transcript :=
  parallelPart (phaseOptions config .recording dir state.testDirs failed) (.ok record)
  ++ logged (phaseLogs config request .recording true false) l

/-- The exchanges of a replay that is carried out, up to its logs. -/
def replayPart (surface : ChangeSurface) (runs : List PhaseRun) (l : Except ServiceFault Unit) :
    Transcript :=
  emitted (.phaseStarted .replaying false 0) :: ran (replayOptions config rules surface dir) runs
  ++ emitted (.phaseFinished .replaying (mergedReplay surface runs))
    :: logged (phaseLogs config request .replaying false false) l

/-- The exchanges of a replay of fresh cassettes that is carried out, up to its logs. -/
def confirmPart (state : RunState) (recorded : List String) (confirm : PhaseRun)
    (l : Except ServiceFault Unit) : Transcript :=
  ⟨publishRequest config request dir, .ok ()⟩
  :: emitted (.cassettesUploaded request.target.headRef)
  :: parallelPart (phaseOptions config .replaying dir state.testDirs recorded) (.ok confirm)
  ++ logged (phaseLogs config request .replaying true true) l

/-- The warning that the provider crashed on fresh cassettes, if it did. -/
def confirmWarning (confirm : PhaseRun) : List Event :=
  if confirm.result.crashed then
    [.warning "provider crashed while replaying recorded cassettes"]
  else []

/-- How fresh cassettes are published and replayed. -/
inductive ConfirmWork (state : RunState) (recorded : List String) :
    Transcript → Except Failure RunState → Prop where
  /-- The cassettes are not accepted. -/
  | unpublished (e : ServiceFault) :
      ConfirmWork state recorded [⟨publishRequest config request dir, .error e⟩]
        (.error (.setup "cassette upload" e.message))
  /-- The tests cannot be run. -/
  | refused (e : RunnerFault) :
      ConfirmWork state recorded
        (⟨publishRequest config request dir, .ok ()⟩
          :: emitted (.cassettesUploaded request.target.headRef)
          :: parallelPart (phaseOptions config .replaying dir state.testDirs recorded) (.error e))
        (.error (.ofRunner e))
  /-- The tests are run. -/
  | confirmed (confirm : PhaseRun) (l : Except ServiceFault Unit) :
      ConfirmWork state recorded
        (confirmPart config request dir state recorded confirm l
          ++ (confirmWarning confirm).map emitted)
        (.ok (confirmedState state confirm))

/-- How the tests that failed in the replay are recorded. -/
inductive RecordWork (state : RunState) (failed : List String) :
    Transcript → Except Failure RunState → Prop where
  /-- The tests cannot be run. -/
  | refused (e : RunnerFault) :
      RecordWork state failed
        (parallelPart (phaseOptions config .recording dir state.testDirs failed) (.error e))
        (.error (.ofRunner e))
  /-- The provider crashes. -/
  | crashed (record : PhaseRun) (l : Except ServiceFault Unit)
      (hc : record.result.crashed = true) :
      RecordWork state failed
        (recordPart config request dir state failed record l
          ++ [emitted (.warning "provider crashed while recording")])
        (.ok { recordedState state record with terminal := some .recordPanicked })
  /-- No test passes. -/
  | nothing (record : PhaseRun) (l : Except ServiceFault Unit)
      (hc : record.result.crashed = false) (hp : record.result.passed.isEmpty = true) :
      RecordWork state failed
        (recordPart config request dir state failed record l
          ++ [emitted (.warning "no tests passed in RECORDING mode, not uploading cassettes")])
        (.ok { recordedState state record with terminal := some .done })
  /-- What passed is published. -/
  | confirming (record : PhaseRun) (l : Except ServiceFault Unit)
      (hc : record.result.crashed = false) (hp : record.result.passed.isEmpty = false)
      {ts : Transcript} {w : Except Failure RunState}
      (hw : ConfirmWork config request dir (recordedState state record)
        record.result.passed.toList ts w) :
      RecordWork state failed (recordPart config request dir state failed record l ++ ts) w

/-- How a surface is replayed, and what is done about that. -/
inductive ReplayWork (surface : ChangeSurface) : Transcript → Except Failure RunState → Prop where
  /-- Some tests cannot be run. -/
  | refused (ts : Transcript) (failure : Failure)
      (hr : Replayed (replayOptions config rules surface dir) ts (.error failure)) :
      ReplayWork surface (emitted (.phaseStarted .replaying false 0) :: ts) (.error failure)
  /-- The provider crashes. -/
  | crashed (runs : List PhaseRun) (l : Except ServiceFault Unit)
      (hl : runs.length = (replayOptions config rules surface dir).length)
      (hc : (mergedReplay surface runs).result.crashed = true) :
      ReplayWork surface
        (replayPart config rules request dir surface runs l
          ++ [emitted (.warning "provider crashed while replaying")])
        (.ok { replayedState rules surface (mergedReplay surface runs) with
          terminal := some .replayPanicked })
  /-- No test fails. -/
  | clean (runs : List PhaseRun) (l : Except ServiceFault Unit)
      (hl : runs.length = (replayOptions config rules surface dir).length)
      (hc : (mergedReplay surface runs).result.crashed = false)
      (hf : (mergedReplay surface runs).result.failed.isEmpty = true) :
      ReplayWork surface (replayPart config rules request dir surface runs l)
        (.ok { examinedState rules request surface (mergedReplay surface runs) with
          terminal := some .replayedClean })
  /-- What failed is recorded. -/
  | recording (runs : List PhaseRun) (l : Except ServiceFault Unit)
      (hl : runs.length = (replayOptions config rules surface dir).length)
      (hc : (mergedReplay surface runs).result.crashed = false)
      (hf : (mergedReplay surface runs).result.failed.isEmpty = false)
      {ts : Transcript} {w : Except Failure RunState}
      (hw : RecordWork config request dir
        (examinedState rules request surface (mergedReplay surface runs))
        (mergedReplay surface runs).result.failed.toList ts w) :
      ReplayWork surface (replayPart config rules request dir surface runs l ++ ts) w

/-- Concludes the work `ts` that came out as `w`: a failure is passed on, and a state is told. -/
inductive Concluded (ts : Transcript) : Except Failure RunState → Transcript →
    Except Failure (RunState × Option String) → Prop where
  | failed (failure : Failure) : Concluded ts (.error failure) ts (.error failure)
  | told (state : RunState) (a b : Except ServiceFault Unit) :
      Concluded ts (.ok state) (ts ++ conclusion config request state a b)
        (.ok (state, Report.report? state (.of config request.target)))

end Stages

variable {config : Config} {rules : SurfaceRules} {request : ChangeRequest} {dir : Path}
  {state : RunState} {t : Transcript}

/-! ## A run of a stage is concluded work -/

section Concluding

variable {r : Except Failure (RunState × Option String)}

/-- More work in front of concluded work. -/
theorem Concluded.prepend {ts : Transcript} {w : Except Failure RunState}
    (h : Concluded config request ts w t r) (front : Transcript) :
    Concluded config request (front ++ ts) w (front ++ t) r := by
  cases h with
  | failed failure => exact .failed failure
  | told state a b =>
      rw [← List.append_assoc]
      exact .told state a b

/-- A run that concludes a state concludes the work in front of it. -/
theorem concluded_of_conclude (h : Runs (conclude config request state) t r) (ts : Transcript) :
    Concluded config request ts (.ok state) (ts ++ t) r := by
  obtain ⟨a, b, rfl, rfl⟩ := runs_conclude h
  exact .told state a b

/-- The same behind a warning. -/
theorem concluded_of_warning {event : Event}
    (h : Runs (emit event >>= fun _ => conclude config request state) t r) (ts : Transcript) :
    Concluded config request (ts ++ [emitted event]) (.ok state) (ts ++ t) r := by
  obtain ⟨rest, rfl, hk⟩ := h.emit_bind
  have := concluded_of_conclude hk (ts ++ [emitted event])
  rwa [List.append_assoc] at this

theorem concluded_confirmStage {recorded : List String}
    (h : Runs (confirmStage config request dir state recorded) t r) :
    ∃ ts w, ConfirmWork config request dir state recorded ts w ∧
      Concluded config request ts w t r := by
  unfold confirmStage at h
  rcases h.call_bind runs_upload with ⟨_, published, rfl, hevent⟩ | ⟨e, rfl, rfl⟩
  · obtain ⟨rest, rfl, hphase⟩ := hevent.emit_bind
    rcases hphase.call_bind runs_parallelPhase with ⟨confirm, behind, rfl, hlogs⟩ | ⟨e, rfl, rfl⟩
    · obtain ⟨l, rest, rfl, hwarn⟩ := uploadPhaseLogs_bind hlogs
      -- a crash is warned of, but concluded like anything else
      have told : Concluded config request ((confirmWarning confirm).map emitted)
          (.ok (confirmedState state confirm)) rest r := by
        unfold confirmWarning
        by_cases hc : confirm.result.crashed = true
        · rw [if_pos hc] at hwarn ⊢
          exact concluded_of_warning hwarn []
        · rw [if_neg hc] at hwarn ⊢
          exact concluded_of_conclude hwarn []
      have := told.prepend (confirmPart config request dir state recorded confirm l)
      rw [show confirmPart config request dir state recorded confirm l ++ rest = _ from
        List.append_assoc _ _ _] at this
      exact ⟨_, _, .confirmed confirm l, this⟩
    · exact ⟨_, _, .refused e, .failed _⟩
  · exact ⟨_, _, .unpublished e, .failed _⟩

theorem concluded_recordStage {failed : List String}
    (h : Runs (recordStage config request dir state failed) t r) :
    ∃ ts w, RecordWork config request dir state failed ts w ∧
      Concluded config request ts w t r := by
  unfold recordStage at h
  rcases h.call_bind runs_parallelPhase with ⟨record, behind, rfl, hlogs⟩ | ⟨e, rfl, rfl⟩
  · obtain ⟨l, rest, rfl, hexit⟩ := uploadPhaseLogs_bind hlogs
    rw [← List.append_assoc]
    by_cases hc : record.result.crashed = true
    · rw [if_pos hc] at hexit
      exact ⟨_, _, .crashed record l hc, concluded_of_warning hexit _⟩
    · rw [if_neg hc] at hexit
      rw [Bool.not_eq_true] at hc
      by_cases hp : record.result.passed.isEmpty = true
      · rw [if_pos hp] at hexit
        exact ⟨_, _, .nothing record l hc hp, concluded_of_warning hexit _⟩
      · rw [if_neg hp] at hexit
        rw [Bool.not_eq_true] at hp
        obtain ⟨ts, w, hw, hconf⟩ := concluded_confirmStage hexit
        exact ⟨_, w, .confirming record l hc hp hw, hconf.prepend _⟩
  · exact ⟨_, _, .refused e, .failed _⟩

theorem concluded_replayStage {surface : ChangeSurface}
    (h : Runs (replayStage config rules request surface dir) t r) :
    ∃ ts w, ReplayWork config rules request dir surface ts w ∧
      Concluded config request ts w t r := by
  unfold replayStage at h
  rcases h.bind_cases with ⟨before, replay, behind, rfl, hreplay, hlogs⟩ | ⟨failure, rfl, hreplay⟩
  · obtain ⟨ts, w, hr, hw, rfl⟩ := runs_replayPackages hreplay
    obtain ⟨l, rest, rfl, hexit⟩ := uploadPhaseLogs_bind hlogs
    cases hr with
    | refused front o rest' runs e ho hl => exact absurd hw (by simp [Except.map])
    | answered runs hl =>
        obtain rfl : replay = mergedReplay surface runs := Except.ok.inj hw
        have front : emitted (.phaseStarted .replaying false 0)
            :: ran (replayOptions config rules surface dir) runs
            ++ [emitted (.phaseFinished .replaying (mergedReplay surface runs))]
            ++ (logged (phaseLogs config request .replaying false false) l ++ rest)
            = replayPart config rules request dir surface runs l ++ rest := by
          simp [replayPart]
        rw [front]
        by_cases hc : (mergedReplay surface runs).result.crashed = true
        · rw [if_pos hc] at hexit
          exact ⟨_, _, .crashed runs l hl hc, concluded_of_warning hexit _⟩
        · rw [if_neg hc] at hexit
          rw [Bool.not_eq_true] at hc
          by_cases hf : (mergedReplay surface runs).result.failed.isEmpty = true
          · rw [if_pos hf] at hexit
            exact ⟨_, _, .clean runs l hl hc hf, concluded_of_conclude hexit _⟩
          · rw [if_neg hf] at hexit
            rw [Bool.not_eq_true] at hf
            obtain ⟨ts, w, hw, hrec⟩ := concluded_recordStage hexit
            exact ⟨_, w, .recording runs l hl hc hf hw, hrec.prepend _⟩
  · obtain ⟨ts, w, hr, hw, rfl⟩ := runs_replayPackages hreplay
    cases w with
    | ok runs => exact absurd hw (by simp [Except.map])
    | error failure' =>
        obtain rfl : failure = failure' := Except.error.inj hw
        rw [List.append_nil]
        exact ⟨_, _, .refused ts failure hr, .failed _⟩

end Concluding

/-! ## The end of a run -/

theorem runs_emitViolations {violations : List String} {r : Except Failure Unit}
    (h : Runs (emitViolations violations) t r) :
    r = .ok () ∧ t = (violations.map Event.violation).map emitted := by
  induction violations generalizing t with
  | nil =>
      obtain ⟨rfl, rfl⟩ := runs_pure.1 h
      exact ⟨rfl, rfl⟩
  | cons v vs ih =>
      unfold emitViolations at h
      obtain ⟨rest, rfl, hk⟩ := h.emit_bind
      obtain ⟨rfl, rfl⟩ := ih hk
      exact ⟨rfl, rfl⟩

theorem runs_finish {report : Option String} {r : Except Failure Outcome}
    (h : Runs (finish state report) t r) :
    t = (closing state).map emitted ∧ r = .ok ⟨state, finalVerdict state, report⟩ := by
  unfold finish at h
  -- behind the event of the end, if there is one
  have final : ∀ {rest : Transcript},
      Runs (do
        emitViolations (finalVerdict state).violations
        return { state, verdict := finalVerdict state, report }) rest r →
      rest = ((finalVerdict state).violations.map Event.violation).map emitted ∧
        r = .ok ⟨state, finalVerdict state, report⟩ := by
    intro rest hk
    obtain ⟨before, behind, rfl, hv, hret⟩ := hk.bind_of_ok fun h => (runs_emitViolations h).1
    obtain ⟨-, rfl⟩ := runs_emitViolations hv
    obtain ⟨rfl, rfl⟩ := runs_pure.1 hret
    exact ⟨List.append_nil _, rfl⟩
  unfold closing
  cases ht : state.terminal with
  | none =>
      rw [ht] at h
      exact final h
  | some terminal =>
      rw [ht] at h
      obtain ⟨rest, rfl, hk⟩ := Runs.emit_bind h
      obtain ⟨rfl, rfl⟩ := final hk
      exact ⟨rfl, rfl⟩

/-! ## The run -/

/-- How a run for a change can go: there is nothing to test, the fetch is refused, a failure ends
    the work behind it, or the work is done. -/
inductive Course (config : Config) (rules : SurfaceRules) (request : ChangeRequest) :
    Transcript → Except Failure Outcome → Prop where
  /-- The change touches nothing that is tested. -/
  | idle (hs : (rules.surface request.changedFiles).isEmpty = true) :
      Course config rules request
        [emitted (.surfaceComputed (rules.surface request.changedFiles).fullSweep
            (rules.surface request.changedFiles).packages.size),
          emitted (.note "no test-relevant files changed, skipping VCR"),
          emitted (.runFinished .nothingToTest true)]
        (.ok
          { state :=
              { RunState.start (rules.surface request.changedFiles) with
                terminal := some .nothingToTest }
            verdict := .nothingToTest
            report := none })
  /-- The cassettes cannot be fetched. -/
  | unfetched (hs : (rules.surface request.changedFiles).isEmpty = false) (e : ServiceFault) :
      Course config rules request
        [emitted (.surfaceComputed (rules.surface request.changedFiles).fullSweep
            (rules.surface request.changedFiles).packages.size),
          ⟨fetchRequest config request, .error e⟩]
        (.error (.setup "cassette fetch" e.message))
  /-- A failure ends the work. -/
  | abandoned (hs : (rules.surface request.changedFiles).isEmpty = false) (dir : Path)
      (a b : Except ServiceFault Unit) {ts : Transcript} {failure : Failure}
      (hw : ReplayWork config rules request dir (rules.surface request.changedFiles) ts
        (.error failure)) :
      Course config rules request
        (emitted (.surfaceComputed (rules.surface request.changedFiles).fullSweep
            (rules.surface request.changedFiles).packages.size)
          :: ⟨fetchRequest config request, .ok dir⟩
          :: (shown (statusPost config request .pending) a
            ++ (ts ++ shown (statusPost config request .failure) b)))
        (.error failure)
  /-- The work is done. -/
  | finished (hs : (rules.surface request.changedFiles).isEmpty = false) (dir : Path)
      (a b c : Except ServiceFault Unit) {ts : Transcript} {state : RunState}
      (hw : ReplayWork config rules request dir (rules.surface request.changedFiles) ts
        (.ok state)) :
      Course config rules request
        (emitted (.surfaceComputed (rules.surface request.changedFiles).fullSweep
            (rules.surface request.changedFiles).packages.size)
          :: ⟨fetchRequest config request, .ok dir⟩
          :: (shown (statusPost config request .pending) a
            ++ (ts ++ conclusion config request state b c ++ (closing state).map emitted)))
        (.ok
          { state
            verdict := finalVerdict state
            report := Report.report? state (.of config request.target) })

/-- **Every run is one of these courses.** -/
theorem course_presubmit {r : Except Failure Outcome}
    (h : Runs (presubmit config rules request) t r) : Course config rules request t r := by
  unfold presubmit at h
  obtain ⟨rest, rfl, hsurface⟩ := h.emit_bind
  by_cases hs : (rules.surface request.changedFiles).isEmpty = true
  · rw [if_pos hs] at hsurface
    obtain ⟨rest, rfl, hfinish⟩ := hsurface.emit_bind
    obtain ⟨rfl, rfl⟩ := runs_finish hfinish
    exact .idle hs
  · rw [if_neg hs] at hsurface
    rw [Bool.not_eq_true] at hs
    rcases hsurface.call_bind runs_fetch with ⟨dir, rest, rfl, hafter⟩ | ⟨e, rfl, rfl⟩
    · unfold afterFetch at hafter
      -- the work fails or does not; a failure is announced, and thrown again
      obtain ⟨before, rest, rfl, hpending, hstage⟩ :=
        hafter.bind_of_ok fun h => (runs_announce h).1
      obtain ⟨-, a, rfl⟩ := runs_announce hpending
      rcases hstage.bind_cases with ⟨work, told, rest, rfl, hwork, hfinish⟩ | ⟨failure, rfl, hwork⟩
      · rcases hwork.tryCatch_cases with ⟨_, hok, hdone⟩ | ⟨ts, failure, last, rfl, -, hgive⟩
        · obtain rfl := Except.ok.inj hok
          obtain ⟨ts, w, hw, hc⟩ := concluded_replayStage hdone
          cases hc with
          | told state b c =>
              obtain ⟨rfl, rfl⟩ := runs_finish hfinish
              exact .finished hs dir a b c hw
        · -- so no run that failed goes on
          obtain ⟨_, _, _, _, hthrow⟩ := hgive.bind_of_ok fun h => (runs_announce h).1
          exact absurd (runs_throw.1 hthrow).2 (by simp)
      · rcases hwork.tryCatch_cases with ⟨_, hok, -⟩ | ⟨ts, failure, last, rfl, hfail, hgive⟩
        · exact absurd hok (by simp)
        · obtain ⟨before, rest, rfl, hfailure, hthrow⟩ :=
            hgive.bind_of_ok fun h => (runs_announce h).1
          obtain ⟨-, b, rfl⟩ := runs_announce hfailure
          obtain ⟨rfl, hsame⟩ := runs_throw.1 hthrow
          obtain rfl := Except.error.inj hsame
          obtain ⟨ts, w, hw, hc⟩ := concluded_replayStage hfail
          cases hc with
          | failed failure =>
              rw [List.append_nil]
              exact .abandoned hs dir a b hw
    · exact .unfetched hs e

/-! ## A rehearsed change

Runs for one small change, to which the results about all runs are applied. -/

def sampleConfig : Config := .make .ga ⟨⟨"/work"⟩, ⟨"/work/provider"⟩⟩ .empty

def sampleRules : SurfaceRules := .forVersion .ga

/-- A change to two services. -/
def sampleRequest : ChangeRequest :=
  { target := ⟨"7", "c0ffee"⟩
    changedFiles := ["google/services/storage/bucket.go", "google/services/compute/disk.go"]
    gaDiff := ""
    betaDiff := "" }

/-- A phase in which one test was reported as `outcome`. -/
def samplePhase (outcome : TestOutcome) : PhaseRun :=
  .ofResult (RunResult.empty.record outcome "TestAccDisk")

/-- The run for the change in which the phases come out as told. -/
def sampleRun (replays phases : List PhaseRun) (stores : ScriptedStores) :
    Except Failure Outcome × Transcript :=
  Script.rehearse
    { stores
      runs := replays.map fun run => ⟨.ok run, true⟩
      parallelRuns := phases.map fun run => ⟨.ok run, true⟩
      uploads := 0 }
    (presubmit sampleConfig sampleRules sampleRequest)

theorem runs_sampleRun (replays phases : List PhaseRun) (stores : ScriptedStores) :
    Runs (presubmit sampleConfig sampleRules sampleRequest)
      (sampleRun replays phases stores).2 (sampleRun replays phases stores).1 :=
  runs_rehearse _ _

end Presubmit

end CassetteGate
