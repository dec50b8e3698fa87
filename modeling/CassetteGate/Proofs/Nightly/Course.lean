import CassetteGate.Pipeline.Nightly
import CassetteGate.Proofs.Presubmit.Course

/-!
# `Proofs.Nightly.Course` — every way a nightly refresh can go

A refresh works on the cassettes that all runs share, and it works on them in place: a recording
overwrites what was fetched. As for presubmit runs, this file says what a refresh can have done when it
is over. A refused fetch, backup or run of tests ends it where it stands; refused logs and a refused
publication do not. Behind the replay there are three ways on: the provider crashed, nothing failed,
or what failed is recorded (`RepairWork`) and what passed is offered to the store (`PublishWork`).

Each case writes out the whole transcript, events and logs included, so what is proved about
refreshes is read off the cases.

## Contents
- **`mainFetch`**, **`backupRequest`**, **`mainUpload`**, **`replayOptions`**, **`recordOptions`**:
  what is asked for.
- **`runs_backUp`**, **`runs_replay`**, **`runs_record`**, **`runs_publish`**: the steps.
- **`RepairWork`**, **`Course`**, and **`course_nightly`**: the refresh.
- **`sampleRefresh`**: a rehearsal.
-/

namespace CassetteGate

namespace Nightly

open Pipeline
open Presubmit (parallelPart)

/-! ## What is asked for -/

section Requests

variable (config : Config) (request : RefreshRequest) (dir : Path)

/-- The cassettes of the main branch. -/
def mainFetch : Request := .fetch config.version "main" none

/-- The copy of the day. -/
def backupRequest : Request := .upload dir (.backup request.date request.buildId) config.version

/-- The publication of cassettes for all runs. -/
def mainUpload : Request := .upload dir .main config.version

/-- The replay of all of the repository. -/
def replayOptions : RunOptions :=
  { mode := .replaying, version := config.version, cassetteDir := dir, testDirs := [], tests := [] }

/-- The recording of what failed in the replay `run`. -/
def recordOptions (run : PhaseRun) : RunOptions :=
  { mode := .recording, version := config.version, cassetteDir := dir, testDirs := []
    tests := run.result.failed.toList }

/-- The logs of a phase. -/
def phaseLogs (mode : TestMode) (parallel : Bool) : LogUpload :=
  { mode, parallel
    version := config.version
    destination := .nightly request.date request.buildId
    afterRecording := false }

/-! ## Transcripts of the steps -/

/-- A backup, and the event that tells of it. -/
def backupPart (a : Except ServiceFault Unit) : Transcript :=
  ⟨backupRequest config request dir, a⟩
  :: match a with
    | .ok () => [emitted (.backedUp request.date)]
    | .error _ => []

/-- Cassettes that are fetched and kept a copy of. -/
def savedPart : Transcript :=
  ⟨mainFetch config, .ok dir⟩ :: backupPart config request dir (.ok ())

/-- A replay that is carried out, up to its logs. -/
def replayPart (run : PhaseRun) (l : Except ServiceFault Unit) : Transcript :=
  emitted (.phaseStarted .replaying false 0)
  :: ⟨.runTests (replayOptions config dir), .ok run⟩
  :: emitted (.phaseFinished .replaying run)
  :: logged (phaseLogs config request .replaying false) l

/-- A recording that is carried out, up to its logs. -/
def recordPart (run record : PhaseRun) (l : Except ServiceFault Unit) : Transcript :=
  parallelPart (recordOptions config dir run) (.ok record)
  ++ logged (phaseLogs config request .recording true) l

/-- The warning that the provider crashed in the recording, if it did. -/
def recordWarning (record : PhaseRun) : List Event :=
  if record.result.crashed then [.warning "provider crashed while recording"] else []

end Requests

variable {config : Config} {request : RefreshRequest} {dir : Path} {run record : PhaseRun}
  {t : Transcript}

/-! ## The steps -/

/-- A run goes on behind the logs of a phase. -/
theorem phaseLogs_bind {β : Type} {mode : TestMode} {parallel : Bool} {k : Unit → Pipeline β}
    {r : Except Failure β}
    (h : Runs (uploadPhaseLogs config request mode parallel >>= k) t r) :
    ∃ l behind, t = logged (phaseLogs config request mode parallel) l ++ behind ∧
      Runs (k ()) behind r := by
  obtain ⟨before, behind, rfl, hl, hk⟩ := h.bind_of_ok fun h => (runs_uploadLogs h).1
  obtain ⟨-, l, rfl⟩ := runs_uploadLogs hl
  exact ⟨l, behind, rfl, hk⟩

theorem runs_backUp {r : Except Failure Unit} (h : Runs (backUp config request dir) t r) :
    ∃ a, t = backupPart config request dir a ∧
      r = a.mapError fun e => .setup "cassette backup" e.message := by
  unfold backUp at h
  rcases h.call_bind runs_upload with ⟨_, behind, rfl, hevent⟩ | ⟨e, rfl, rfl⟩
  · obtain ⟨rfl, rfl⟩ := runs_emit hevent
    exact ⟨.ok (), rfl, rfl⟩
  · exact ⟨.error e, rfl, rfl⟩

theorem runs_replay {r : Except Failure PhaseRun} (h : Runs (replay config request dir) t r) :
    (∃ l run, t = replayPart config request dir run l ∧ r = .ok run) ∨
    (∃ e, t = [emitted (.phaseStarted .replaying false 0),
        ⟨.runTests (replayOptions config dir), .error e⟩] ∧ r = .error (.ofRunner e)) := by
  unfold replay at h
  obtain ⟨rest, rfl, hrun⟩ := h.emit_bind
  rcases hrun.call_bind runs_runTests with ⟨run, rest, rfl, hend⟩ | ⟨e, rfl, rfl⟩
  · obtain ⟨rest, rfl, hlogs⟩ := hend.emit_bind
    obtain ⟨l, rest, rfl, hret⟩ := phaseLogs_bind hlogs
    obtain ⟨rfl, rfl⟩ := runs_pure.1 hret
    rw [List.append_nil]
    exact Or.inl ⟨l, run, rfl, rfl⟩
  · exact Or.inr ⟨e, rfl, rfl⟩

theorem runs_record {r : Except Failure PhaseRun}
    (h : Runs (Nightly.record config request dir run.result.failed.toList) t r) :
    (∃ l record, t = recordPart config request dir run record l ∧ r = .ok record) ∨
    (∃ e, t = parallelPart (recordOptions config dir run) (.error e) ∧ r = .error (.ofRunner e)) := by
  unfold Nightly.record at h
  obtain ⟨rest, rfl, hrun⟩ := h.emit_bind
  rcases hrun.call_bind runs_runEach with ⟨record, rest, rfl, hend⟩ | ⟨e, rfl, rfl⟩
  · obtain ⟨rest, rfl, hlogs⟩ := hend.emit_bind
    obtain ⟨l, rest, rfl, hret⟩ := phaseLogs_bind hlogs
    obtain ⟨rfl, rfl⟩ := runs_pure.1 hret
    rw [List.append_nil]
    exact Or.inl ⟨l, record, rfl, rfl⟩
  · exact Or.inr ⟨e, rfl, rfl⟩

/-- How a recording is published, and whether it was. -/
inductive PublishWork (config : Config) (dir : Path) (record : PhaseRun) :
    Transcript → Bool → Prop where
  /-- No test passed. -/
  | nothing (hp : record.result.passed.isEmpty = true) :
      PublishWork config dir record
        [emitted (.warning "no tests passed in RECORDING mode, not uploading cassettes")] false
  /-- The cassettes are accepted. -/
  | accepted (hp : record.result.passed.isEmpty = false) :
      PublishWork config dir record [⟨mainUpload config dir, .ok ()⟩] true
  /-- The cassettes are not accepted. -/
  | declined (hp : record.result.passed.isEmpty = false) (e : ServiceFault) :
      PublishWork config dir record
        [⟨mainUpload config dir, .error e⟩,
          emitted (.sideEffectFailed "cassette upload" e.message)] false

theorem runs_publish {r : Except Failure Bool} (h : Runs (publish config dir record) t r) :
    ∃ uploaded, r = .ok uploaded ∧ PublishWork config dir record t uploaded := by
  unfold publish at h
  by_cases hp : record.result.passed.isEmpty = true
  · rw [if_pos hp] at h
    obtain ⟨rest, rfl, hret⟩ := h.emit_bind
    obtain ⟨rfl, rfl⟩ := runs_pure.1 hret
    exact ⟨false, rfl, .nothing hp⟩
  · rw [if_neg hp] at h
    rw [Bool.not_eq_true] at hp
    unfold tryUpload at h
    obtain ⟨a, rest, rfl, hk⟩ := h.ask_bind
    cases a with
    | ok _ =>
        obtain ⟨rfl, rfl⟩ := runs_pure.1 hk
        exact ⟨true, rfl, .accepted hp⟩
    | error e =>
        obtain ⟨rest, rfl, hret⟩ := Runs.emit_bind hk
        obtain ⟨rfl, rfl⟩ := runs_pure.1 hret
        exact ⟨false, rfl, .declined hp e⟩

/-! ## The refresh -/

/-- How the tests that failed in the replay `run` are recorded. -/
inductive RepairWork (config : Config) (request : RefreshRequest) (dir : Path) (run : PhaseRun) :
    Transcript → Except Failure RefreshOutcome → Prop where
  /-- The tests cannot be run. -/
  | refused (e : RunnerFault) :
      RepairWork config request dir run
        (parallelPart (recordOptions config dir run) (.error e)) (.error (.ofRunner e))
  /-- The tests are run. -/
  | recorded (record : PhaseRun) (l : Except ServiceFault Unit) {ts : Transcript} {uploaded : Bool}
      (hp : PublishWork config dir record ts uploaded) :
      RepairWork config request dir run
        (recordPart config request dir run record l ++ ts ++ (recordWarning record).map emitted)
        (.ok (recordOutcome (replayOutcome run) record uploaded))

theorem runs_recordWarning {o : RefreshOutcome} {r : Except Failure RefreshOutcome}
    (h : Runs (do
      if record.result.crashed then emit (.warning "provider crashed while recording")
      return o) t r) :
    t = (recordWarning record).map emitted ∧ r = .ok o := by
  unfold recordWarning
  by_cases hc : record.result.crashed = true
  · rw [if_pos hc] at h ⊢
    obtain ⟨rest, rfl, hret⟩ := h.emit_bind
    obtain ⟨rfl, rfl⟩ := runs_pure.1 hret
    exact ⟨rfl, rfl⟩
  · rw [if_neg hc] at h ⊢
    exact runs_pure.1 h

theorem repairWork_of_runs {r : Except Failure RefreshOutcome}
    (h : Runs (repair config request dir (replayOutcome run)) t r) :
    RepairWork config request dir run t r := by
  unfold repair at h
  rcases h.part_bind runs_record with ⟨l, record, rest, rfl, hpub⟩ | ⟨e, rfl, rfl⟩
  · rcases hpub.bind_cases with ⟨ts, uploaded, rest, rfl, hp, hwarn⟩ | ⟨failure, rfl, hp⟩
    · obtain ⟨_, hok, hwork⟩ := runs_publish hp
      obtain rfl := Except.ok.inj hok
      obtain ⟨rfl, rfl⟩ := runs_recordWarning hwarn
      rw [← List.append_assoc]
      exact .recorded record l hwork
    · -- the publication does not fail, whatever the store says to it
      obtain ⟨uploaded, hok, -⟩ := runs_publish hp
      cases hok
  · exact .refused e

/-- How a refresh can go. -/
inductive Course (config : Config) (request : RefreshRequest) :
    Transcript → Except Failure RefreshOutcome → Prop where
  /-- The cassettes cannot be fetched. -/
  | unfetched (e : ServiceFault) :
      Course config request [⟨mainFetch config, .error e⟩]
        (.error (.setup "cassette fetch" e.message))
  /-- No copy of them can be kept. -/
  | unsaved (dir : Path) (e : ServiceFault) :
      Course config request
        (⟨mainFetch config, .ok dir⟩ :: backupPart config request dir (.error e))
        (.error (.setup "cassette backup" e.message))
  /-- The tests cannot be run. -/
  | unreplayed (dir : Path) (e : RunnerFault) :
      Course config request
        (savedPart config request dir
          ++ [emitted (.phaseStarted .replaying false 0),
            ⟨.runTests (replayOptions config dir), .error e⟩])
        (.error (.ofRunner e))
  /-- The provider crashes in the replay. -/
  | crashed (dir : Path) (run : PhaseRun) (l : Except ServiceFault Unit)
      (hc : run.result.crashed = true) :
      Course config request
        (savedPart config request dir ++ replayPart config request dir run l
          ++ [emitted (.warning "provider crashed while replaying")])
        (.ok (replayOutcome run))
  /-- No test fails. -/
  | clean (dir : Path) (run : PhaseRun) (l : Except ServiceFault Unit)
      (hc : run.result.crashed = false) (hf : run.result.failed.isEmpty = true) :
      Course config request (savedPart config request dir ++ replayPart config request dir run l)
        (.ok (replayOutcome run))
  /-- What failed is recorded. -/
  | repairing (dir : Path) (run : PhaseRun) (l : Except ServiceFault Unit)
      (hc : run.result.crashed = false) (hf : run.result.failed.isEmpty = false)
      {ts : Transcript} {r : Except Failure RefreshOutcome}
      (hw : RepairWork config request dir run ts r) :
      Course config request
        (savedPart config request dir ++ replayPart config request dir run l ++ ts) r

/-- **Every refresh is one of these courses.** -/
theorem course_nightly {r : Except Failure RefreshOutcome}
    (h : Runs (nightly config request) t r) : Course config request t r := by
  unfold nightly at h
  rcases h.call_bind runs_fetch with ⟨dir, rest, rfl, hsave⟩ | ⟨e, rfl, rfl⟩
  · rcases hsave.call_bind runs_backUp with ⟨_, rest, rfl, hreplay⟩ | ⟨e, rfl, rfl⟩
    · rcases hreplay.part_bind runs_replay with ⟨l, run, rest, rfl, hexit⟩ | ⟨e, rfl, rfl⟩
      · -- the fetch and the backup stand in front of whatever the replay leads to
        rw [← List.append_assoc, ← List.append_assoc]
        replace hexit : Runs (do
            if run.result.crashed then
              emit (.warning "provider crashed while replaying")
              return replayOutcome run
            else if run.result.failed.isEmpty then return replayOutcome run
            else repair config request dir (replayOutcome run)) rest r := hexit
        by_cases hc : run.result.crashed = true
        · rw [if_pos hc] at hexit
          obtain ⟨rest, rfl, hret⟩ := hexit.emit_bind
          obtain ⟨rfl, rfl⟩ := runs_pure.1 hret
          exact .crashed dir run l hc
        · rw [if_neg hc] at hexit
          rw [Bool.not_eq_true] at hc
          by_cases hf : run.result.failed.isEmpty = true
          · rw [if_pos hf] at hexit
            obtain ⟨rfl, rfl⟩ := runs_pure.1 hexit
            rw [List.append_nil]
            exact .clean dir run l hc hf
          · rw [if_neg hf] at hexit
            rw [Bool.not_eq_true] at hf
            exact .repairing dir run l hc hf (repairWork_of_runs hexit)
      · exact .unreplayed dir e
    · exact .unsaved dir e
  · exact .unfetched e

/-! ## A rehearsed refresh

Runs of one refresh, to which the results about all refreshes are applied. -/

def sampleConfig : Config := .make .beta ⟨⟨"/work"⟩, ⟨"/work/provider"⟩⟩ .empty

def sampleRequest : RefreshRequest := ⟨"2024-05-01", "build-9"⟩

/-- The refresh in which the replay and the recording come out as told. -/
def sampleRefresh (replay record : PhaseRun) (stores : ScriptedStores) :
    Except Failure RefreshOutcome × Transcript :=
  Script.rehearse
    { stores
      runs := [⟨.ok replay, true⟩]
      parallelRuns := [⟨.ok record, true⟩]
      uploads := 0 }
    (nightly sampleConfig sampleRequest)

theorem runs_sampleRefresh (replay record : PhaseRun) (stores : ScriptedStores) :
    Runs (nightly sampleConfig sampleRequest)
      (sampleRefresh replay record stores).2 (sampleRefresh replay record stores).1 :=
  runs_rehearse _ _

end Nightly

end CassetteGate
