import CassetteGate.Pipeline.Presubmit
import CassetteGate.Proofs.Pipeline.Runs

/-!
# `Proofs.Presubmit.Steps` — the runs of the steps of a presubmit run

A presubmit run is put together from few steps: the replay of a surface, a phase that runs single
tests, the upload of logs, and the conclusion that is said to the review platform. For each of them
this file writes down the transcripts that it can have, as functions of the answers, and shows that
it has no others. The calls that replay a surface are the only step of unbounded length; they are
`Replayed`, by induction over the directories.

## Contents
- **`fetchRequest`**, **`replayOptions`**, **`phaseOptions`**, **`publishRequest`**: what is asked for.
- **`mergedReplay`**, **`replayedState`** … **`confirmedState`**: what is found out.
- **`ran`**, **`parallelPart`**, **`conclusion`**, **`closing`**: transcripts of the steps.
- **`runs_conclude`**, **`runs_parallelPhase`**, **`runs_replayPackages`**: their runs.
-/

namespace CassetteGate

namespace Presubmit

open Pipeline

/-! ## What is asked for -/

section Requests

variable (config : Config) (rules : SurfaceRules) (request : ChangeRequest)

/-- The fetch that a run begins with. -/
def fetchRequest : Request :=
  .fetch config.version config.baseBranch (some request.target.headRef)

/-- The calls that replay a surface: one for each directory, or a single one on a full sweep. -/
def replayOptions (surface : ChangeSurface) (dir : Path) : List RunOptions :=
  let base : RunOptions :=
    { mode := .replaying, version := config.version, cassetteDir := dir, testDirs := [], tests := [] }
  if surface.fullSweep then [base]
  else (replayDirs rules surface).map fun d => { base with testDirs := [d] }

/-- A call that runs single tests. -/
def phaseOptions (mode : TestMode) (dir : Path) (testDirs tests : List String) : RunOptions :=
  { mode, testDirs, tests, version := config.version, cassetteDir := dir }

/-- The upload of what was recorded. -/
def publishRequest (dir : Path) : Request :=
  .upload dir (.head request.target.headRef) config.version

/-- The logs of a phase. -/
def phaseLogs (mode : TestMode) (parallel afterRecording : Bool) : LogUpload :=
  { mode, parallel, afterRecording
    version := config.version
    destination := .review request.target.headRef config.build.buildId }

/-- A status of the run. -/
def statusPost (state : BuildState) : StatusPost :=
  { state, target := request.target, check := config.checkName, targetUrl := config.build.statusUrl }

end Requests

/-! ## What is found out -/

/-- The replay that some answered calls make: on a full sweep the only answer, else all merged. -/
def mergedReplay (surface : ChangeSurface) (runs : List PhaseRun) : PhaseRun :=
  if surface.fullSweep then runs.headD .empty else .merge runs

/-- The state behind the replay. -/
def replayedState (rules : SurfaceRules) (surface : ChangeSurface) (replay : PhaseRun) : RunState :=
  { RunState.start surface with testDirs := replayDirs rules surface, replay := some replay }

/-- The state behind a replay that did not crash. -/
def examinedState (rules : SurfaceRules) (request : ChangeRequest) (surface : ChangeSurface)
    (replay : PhaseRun) : RunState :=
  { replayedState rules surface replay with
    unexercised := .of request.gaDiff request.betaDiff replay.result }

/-- The state behind the recording. -/
def recordedState (state : RunState) (record : PhaseRun) : RunState :=
  { state with mode := .recording, record := some record }

/-- The state behind the replay of fresh cassettes. -/
def confirmedState (state : RunState) (confirm : PhaseRun) : RunState :=
  { state with
    mode := .replaying, cassettesUploaded := true, confirm := some confirm, terminal := some .done }

/-! ## Transcripts of the steps -/

/-- Replay calls that are answered. -/
def ran (options : List RunOptions) (runs : List PhaseRun) : Transcript :=
  List.zipWith (fun o run => ⟨.runTests o, .ok run⟩) options runs

/-- The end of a phase, if the runner got that far. -/
def phaseEnd (mode : TestMode) : Except RunnerFault PhaseRun → List Event
  | .ok run => [.phaseFinished mode run]
  | .error _ => []

/-- A phase that runs single tests. -/
def parallelPart (options : RunOptions) (a : Except RunnerFault PhaseRun) : Transcript :=
  emitted (.phaseStarted options.mode true options.tests.length)
    :: ⟨.runEach options, a⟩ :: (phaseEnd options.mode a).map emitted

/-- What a run says to the review platform about its state. -/
def conclusion (config : Config) (request : ChangeRequest) (state : RunState)
    (a b : Except ServiceFault Unit) : Transcript :=
  (match Report.report? state (.of config request.target) with
    | some text => commented request.target text a
    | none => [])
  ++ shown (statusPost config request (Verdict.of state).buildState) b

/-- The last events of a run. -/
def closing (state : RunState) : List Event :=
  (match state.terminal with
    | some terminal => [.runFinished terminal (finalVerdict state).passed]
    | none => [])
  ++ (finalVerdict state).violations.map .violation

variable {config : Config} {rules : SurfaceRules} {request : ChangeRequest} {t : Transcript}

/-! ### The calls that replay a surface -/

section ReplayOptions

variable {surface : ChangeSurface} {dir : Path}

/-- The directories of the calls that replay a surface. -/
theorem testDirs_replayOptions :
    (replayOptions config rules surface dir).map (·.testDirs)
      = if surface.fullSweep then [[]] else (replayDirs rules surface).map ([·]) := by
  unfold replayOptions
  by_cases hs : surface.fullSweep = true
  · simp only [if_pos hs]
    rfl
  · simp only [if_neg hs, List.map_map]
    rfl

theorem mode_of_mem_replayOptions {o : RunOptions}
    (ho : o ∈ replayOptions config rules surface dir) : o.mode = .replaying := by
  unfold replayOptions at ho
  split at ho
  · rw [List.mem_singleton.1 ho]
  · obtain ⟨d, -, rfl⟩ := List.mem_map.1 ho
    rfl

theorem replayOptions_ne_nil (hs : surface.isEmpty = false) :
    replayOptions config rules surface dir ≠ [] := by
  unfold replayOptions replayDirs
  by_cases hsweep : surface.fullSweep = true
  · simp [hsweep]
  · simpa [hsweep, ChangeSurface.isEmpty, NameSet.isEmpty] using hs

/-- There are no directories if there is nothing to test. -/
theorem replayDirs_of_isEmpty (hs : surface.isEmpty = true) : replayDirs rules surface = [] := by
  simp only [ChangeSurface.isEmpty, NameSet.isEmpty, Bool.and_eq_true, Bool.not_eq_true',
    List.isEmpty_iff] at hs
  simp [replayDirs, hs]

end ReplayOptions

/-! ### What is seen of the steps -/

/-- The conclusion of a state that is reported on: the report and the status. -/
theorem conclusion_eq {state : RunState} {text : String} {a b : Except ServiceFault Unit}
    (h : Report.report? state (.of config request.target) = some text) :
    conclusion config request state a b
      = commented request.target text a
        ++ shown (statusPost config request (Verdict.of state).buildState) b := by
  unfold conclusion
  rw [h]

@[simp] theorem testCalls_conclusion (state : RunState) (a b : Except ServiceFault Unit) :
    (conclusion config request state a b).testCalls = [] := by
  unfold conclusion
  rw [Transcript.testCalls_append, Transcript.testCalls_shown, List.append_nil]
  cases Report.report? state (.of config request.target) with
  | none => rfl
  | some text => exact Transcript.testCalls_commented _ _ _

@[simp] theorem testCalls_parallelPart (options : RunOptions) (a : Except RunnerFault PhaseRun) :
    (parallelPart options a).testCalls = [⟨.runEach options, a⟩] := by
  unfold parallelPart
  rw [Transcript.testCalls_cons, Transcript.testCalls_cons, Transcript.testCalls_emitted]
  rfl

@[simp] theorem testCalls_ran (options : List RunOptions) (runs : List PhaseRun) :
    (ran options runs).testCalls = ran options runs := by
  induction options generalizing runs with
  | nil => rfl
  | cons o options ih =>
      cases runs with
      | nil => rfl
      | cons run runs =>
          show Transcript.testCalls (⟨.runTests o, .ok run⟩ :: ran options runs) = _
          rw [Transcript.testCalls_cons, ih]
          rfl

theorem runnerCalls_ran {options : List RunOptions} {runs : List PhaseRun}
    (hl : runs.length = options.length) :
    (ran options runs).runnerCalls = options.map fun o => ⟨false, o⟩ := by
  induction options generalizing runs with
  | nil => rfl
  | cons o options ih =>
      cases runs with
      | nil => exact absurd hl (by simp)
      | cons run runs =>
          show ⟨false, o⟩ :: (ran options runs).runnerCalls = _
          rw [ih (Nat.succ.inj hl)]
          rfl

theorem packageCalls_ran (options : List RunOptions) (runs : List PhaseRun) :
    (ran options runs).packageCalls = options.zip (runs.map .ok) := by
  induction options generalizing runs with
  | nil => rfl
  | cons o options ih =>
      cases runs with
      | nil => rfl
      | cons run runs =>
          show (o, .ok run) :: (ran options runs).packageCalls = _
          rw [ih]
          rfl

/-- What was asked for by answered calls. -/
theorem options_packageCalls_ran {options : List RunOptions} {runs : List PhaseRun}
    (hl : runs.length = options.length) : (ran options runs).packageCalls.map Prod.fst = options := by
  have hlength : options.length = (runs.map (Except.ok (ε := RunnerFault))).length := by
    rw [List.length_map, hl]
  rw [packageCalls_ran, List.map_fst_zip (Nat.le_of_eq hlength)]

/-- What came of them. -/
theorem answers_packageCalls_ran {options : List RunOptions} {runs : List PhaseRun}
    (hl : runs.length = options.length) :
    (ran options runs).packageCalls.map Prod.snd = runs.map .ok := by
  have hlength : (runs.map (Except.ok (ε := RunnerFault))).length = options.length := by
    rw [List.length_map, hl]
  rw [packageCalls_ran, List.map_snd_zip (Nat.le_of_eq hlength)]

/-! ## The steps -/

theorem runs_announce {state : BuildState} {r : Except Failure Unit}
    (h : Runs (announce config request.target state) t r) :
    r = .ok () ∧ ∃ a, t = shown (statusPost config request state) a :=
  runs_postStatus h

theorem runs_uploadPhaseLogs {mode : TestMode} {parallel after : Bool} {r : Except Failure Unit}
    (h : Runs (uploadPhaseLogs config request.target mode parallel after) t r) :
    r = .ok () ∧ ∃ a, t = logged (phaseLogs config request mode parallel after) a :=
  runs_uploadLogs h

/-- A run goes on behind the logs of a phase. -/
theorem uploadPhaseLogs_bind {β : Type} {mode : TestMode} {parallel after : Bool}
    {k : Unit → Pipeline β} {r : Except Failure β}
    (h : Runs (uploadPhaseLogs config request.target mode parallel after >>= k) t r) :
    ∃ l behind, t = logged (phaseLogs config request mode parallel after) l ++ behind ∧
      Runs (k ()) behind r := by
  obtain ⟨before, behind, rfl, hl, hk⟩ := h.bind_of_ok fun h => (runs_uploadPhaseLogs h).1
  obtain ⟨-, l, rfl⟩ := runs_uploadPhaseLogs hl
  exact ⟨l, behind, rfl, hk⟩

theorem runs_conclude {state : RunState} {r : Except Failure (RunState × Option String)}
    (h : Runs (conclude config request state) t r) :
    ∃ a b, t = conclusion config request state a b ∧
      r = .ok (state, Report.report? state (.of config request.target)) := by
  unfold conclude at h
  -- the status comes last whether or not there is a report
  have final : ∀ {behind : Transcript} {report : Option String},
      Runs (do
        announce config request.target (Verdict.of state).buildState
        return (state, report)) behind r →
      ∃ b, behind = shown (statusPost config request (Verdict.of state).buildState) b ∧
        r = .ok (state, report) := by
    intro behind report hk
    obtain ⟨before, rest, rfl, ha, hp⟩ := hk.bind_of_ok fun h => (runs_announce h).1
    obtain ⟨-, b, rfl⟩ := runs_announce ha
    obtain ⟨rfl, rfl⟩ := runs_pure.1 hp
    rw [List.append_nil]
    exact ⟨b, rfl, rfl⟩
  unfold conclusion
  cases hr : Report.report? state (.of config request.target) with
  | none =>
      rw [hr] at h
      obtain ⟨b, rfl, rfl⟩ := final h
      exact ⟨.ok (), b, rfl, rfl⟩
  | some text =>
      rw [hr] at h
      obtain ⟨before, behind, rfl, hp, hk⟩ := Runs.bind_of_ok h fun h => (runs_postReport h).1
      obtain ⟨-, a, rfl⟩ := runs_postReport hp
      obtain ⟨b, rfl, rfl⟩ := final hk
      exact ⟨a, b, rfl, rfl⟩

theorem runs_parallelPhase {dir : Path} {mode : TestMode} {testDirs tests : List String}
    {r : Except Failure PhaseRun} (h : Runs (parallelPhase config dir mode testDirs tests) t r) :
    ∃ a, t = parallelPart (phaseOptions config mode dir testDirs tests) a ∧
      r = a.mapError .ofRunner := by
  unfold parallelPhase at h
  obtain ⟨behind, rfl, hrun⟩ := h.emit_bind
  rcases hrun.call_bind runs_runEach with ⟨run, behind, rfl, hend⟩ | ⟨e, rfl, rfl⟩
  · obtain ⟨behind, rfl, hret⟩ := hend.emit_bind
    obtain ⟨rfl, rfl⟩ := runs_pure.1 hret
    exact ⟨.ok run, rfl, rfl⟩
  · exact ⟨.error e, rfl, rfl⟩

/-! ## The replay calls -/

/-- Calls that are made in turn: all of them are answered, or those in front of a refused one. -/
inductive Replayed (options : List RunOptions) :
    Transcript → Except Failure (List PhaseRun) → Prop where
  | answered (runs : List PhaseRun) (hl : runs.length = options.length) :
      Replayed options (ran options runs) (.ok runs)
  | refused (front : List RunOptions) (o : RunOptions) (rest : List RunOptions)
      (runs : List PhaseRun) (e : RunnerFault) (ho : options = front ++ o :: rest)
      (hl : runs.length = front.length) :
      Replayed options (ran front runs ++ [⟨.runTests o, .error e⟩]) (.error (.ofRunner e))

/-- One more answered call in front. -/
theorem Replayed.cons {options : List RunOptions} {r : Except Failure (List PhaseRun)}
    (h : Replayed options t r) (o : RunOptions) (run : PhaseRun) :
    Replayed (o :: options) (⟨.runTests o, .ok run⟩ :: t) (r.map (run :: ·)) := by
  cases h with
  | answered runs hl => exact .answered (run :: runs) (by rw [List.length_cons, hl]; rfl)
  | refused front o' rest runs e ho hl =>
      exact .refused (o :: front) o' rest (run :: runs) e (by rw [ho]; rfl)
        (by rw [List.length_cons, hl]; rfl)

theorem runs_runEachDir {base : RunOptions} {dirs : List String}
    {r : Except Failure (List PhaseRun)} (h : Runs (runEachDir base dirs) t r) :
    Replayed (dirs.map fun d => { base with testDirs := [d] }) t r := by
  induction dirs generalizing t r with
  | nil =>
      obtain ⟨rfl, rfl⟩ := runs_pure.1 h
      exact .answered [] rfl
  | cons d dirs ih =>
      -- the first call is refused, or the calls behind it are, or none is
      unfold runEachDir at h
      rcases h.call_bind runs_runTests with ⟨run, behind, rfl, hk⟩ | ⟨e, rfl, rfl⟩
      · rcases hk.bind_cases with ⟨before, runs, rest, rfl, hd, hret⟩ | ⟨failure, rfl, hd⟩
        · obtain ⟨rfl, rfl⟩ := runs_pure.1 hret
          rw [List.append_nil]
          exact (ih hd).cons _ run
        · exact (ih hd).cons _ run
      · exact .refused [] _ _ [] e rfl rfl

/-- The replay of a surface: its calls between the two events of a phase. -/
theorem runs_replayPackages {surface : ChangeSurface} {dir : Path} {r : Except Failure PhaseRun}
    (h : Runs (replayPackages config rules surface dir) t r) :
    ∃ ts w, Replayed (replayOptions config rules surface dir) ts w ∧
      r = w.map (mergedReplay surface) ∧
      t = emitted (.phaseStarted .replaying false 0) :: ts ++
        match w with
        | .ok runs => [emitted (.phaseFinished .replaying (mergedReplay surface runs))]
        | .error _ => [] := by
  unfold replayPackages at h
  obtain ⟨behind, rfl, hcalls⟩ := h.emit_bind
  have final : ∀ {rest : Transcript} {replay : PhaseRun},
      Runs (do
        emit (.phaseFinished .replaying replay)
        return replay) rest r →
      rest = [emitted (.phaseFinished .replaying replay)] ∧ r = .ok replay := by
    intro rest replay hk
    obtain ⟨rest, rfl, hret⟩ := hk.emit_bind
    obtain ⟨rfl, rfl⟩ := runs_pure.1 hret
    exact ⟨rfl, rfl⟩
  unfold replayOptions mergedReplay
  -- a full sweep is a single call, and its answer is not merged with anything
  by_cases hs : surface.fullSweep = true
  · rw [if_pos hs] at hcalls
    simp only [if_pos hs]
    rcases hcalls.call_bind runs_runTests with ⟨run, rest, rfl, hk⟩ | ⟨e, rfl, rfl⟩
    · obtain ⟨rfl, rfl⟩ := final hk
      exact ⟨_, _, .answered [run] rfl, rfl, rfl⟩
    · exact ⟨_, _, .refused [] _ [] [] e rfl rfl, rfl, rfl⟩
  · rw [if_neg hs] at hcalls
    simp only [if_neg hs]
    rcases hcalls.bind_cases with ⟨before, replay, rest, rfl, hm, hk⟩ | ⟨failure, rfl, hm⟩
    · obtain ⟨w, hw, hd⟩ := runs_map hm
      obtain ⟨rfl, rfl⟩ := final hk
      cases w with
      | ok runs =>
          obtain rfl : replay = .merge runs := Except.ok.inj hw
          exact ⟨before, .ok runs, runs_runEachDir hd, rfl, rfl⟩
      | error failure => exact absurd hw (by simp [Except.map])
    · obtain ⟨w, hw, hd⟩ := runs_map hm
      cases w with
      | ok runs => exact absurd hw (by simp [Except.map])
      | error failure' =>
          exact ⟨behind, .error failure', runs_runEachDir hd, hw, by rw [List.append_nil]⟩

end Presubmit

end CassetteGate
