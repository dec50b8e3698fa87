import CassetteGate.Proofs.Nightly.Course
import CassetteGate.Proofs.Pipeline.Follows

/-!
# `Proofs.Nightly.CallOrder` — what a refresh asks of the runner and the store

A recording overwrites the cassettes that were fetched, and a publication overwrites those that all
runs share. What keeps a refresh from losing them is the order of its calls: the copy of the day is
stored before a test is run, whatever comes of the tests. As in a presubmit run, the calls are a
beginning of one list, cut off where the answers call for no further step (`callPlan`).

The calls differ in what their refusal means. A refused fetch, backup or run of tests is the end of a
refresh (`Fatal`); a refused publication only shows in the outcome. `Keeps` says both of a part of a
refresh and its plan, and is proved from the last step to the first: each part stands behind calls
that were answered well (`Keeps.prepend`).

## Contents
- **`repairPlan`**, **`callPlan`**: the plan, given the answers.
- **`Fatal`**, **`Keeps`**: calls that go by a plan, and what comes of them.
- **`Course.keeps`**: refreshes keep to the plan.
- **`RefreshProtocol`**, and **`nightly_refreshProtocol`**: what that means for the single calls.
-/

namespace CassetteGate

namespace Nightly

open Pipeline
open Presubmit (testCalls_parallelPart samplePhase)

/-! ## The plan -/

section Plan

variable (config : Config) (request : RefreshRequest) (dir : Path) (run record : PhaseRun)

/-- The fetch and the backup, accepted. -/
def savedPlan : Transcript :=
  [⟨mainFetch config, .ok dir⟩, ⟨backupRequest config request dir, .ok ()⟩]

/-- The fetch, the backup and the replay. -/
def replayPlan : Transcript :=
  savedPlan config request dir ++ [⟨.runTests (replayOptions config dir), .ok run⟩]

/-- The recording, with its result. -/
def recordCall : Exchange Request.Answer := ⟨.runEach (recordOptions config dir run), .ok record⟩

/-- The publication of what was recorded, unless nothing passed. -/
def publishPlan : Transcript :=
  if record.result.passed.isEmpty then [] else [⟨mainUpload config dir, .ok ()⟩]

/-- All calls of a refresh; nothing is recorded unless tests failed and the provider did not crash. -/
def callPlan : Transcript :=
  replayPlan config request dir run
  ++ if run.result.crashed || run.result.failed.isEmpty then []
     else recordCall config dir run record :: publishPlan config dir record

end Plan

/-- A call that a refresh cannot go on without, refused. -/
inductive Fatal : Exchange Request.Answer → Prop where
  /-- There are no cassettes. -/
  | fetch (version : ProviderVersion) (branch : String) (head : Option String) (e : ServiceFault) :
      Fatal ⟨.fetch version branch head, .error e⟩
  /-- There is no copy of them. -/
  | backup (source : Path) (date buildId : String) (version : ProviderVersion) (e : ServiceFault) :
      Fatal ⟨.upload source (.backup date buildId) version, .error e⟩
  /-- No package can be tested. -/
  | runTests (options : RunOptions) (e : RunnerFault) : Fatal ⟨.runTests options, .error e⟩
  /-- No test can be run. -/
  | runEach (options : RunOptions) (e : RunnerFault) : Fatal ⟨.runEach options, .error e⟩

variable {config : Config} {request : RefreshRequest} {dir : Path} {run record : PhaseRun}
  {ts t calls plan : Transcript} {r : Except Failure RefreshOutcome}

/-- Nothing is planned behind a crash, or a replay without failures. -/
theorem callPlan_of_stop (h : (run.result.crashed || run.result.failed.isEmpty) = true) :
    callPlan config request dir run record = replayPlan config request dir run := by
  unfold callPlan
  rw [if_pos h, List.append_nil]

theorem callPlan_of_failed (hc : run.result.crashed = false)
    (hf : run.result.failed.isEmpty = false) :
    callPlan config request dir run record
      = replayPlan config request dir run
        ++ recordCall config dir run record :: publishPlan config dir record := by
  unfold callPlan
  rw [hc, hf]
  rfl

/-- Whatever is fatal is a call at the runner or the store. -/
theorem exists_fatal_testCalls : (∃ e ∈ t.testCalls, Fatal e) ↔ ∃ e ∈ t, Fatal e := by
  constructor
  · rintro ⟨e, he, hfatal⟩
    exact ⟨e, (List.mem_filter.1 he).1, hfatal⟩
  · rintro ⟨e, he, hfatal⟩
    refine ⟨e, List.mem_filter.2 ⟨he, ?_⟩, hfatal⟩
    cases hfatal <;> rfl

/-! ## Keeping to a plan -/

/-- An exchange that neither ends a refresh nor publishes anything. -/
def Preliminary (config : Config) (dir : Path) (e : Exchange Request.Answer) : Prop :=
  ¬ Fatal e ∧ e.request ≠ mainUpload config dir

/-- The calls of a part of a refresh that ends in `r` go by a plan. -/
structure Keeps (config : Config) (dir : Path) (plan calls : Transcript)
    (r : Except Failure RefreshOutcome) : Prop where
  /-- They follow it. -/
  follows : Follows calls plan
  /-- If there is an outcome, no call of the plan is left out. -/
  complete : ∀ o, r = .ok o → calls.map (·.request) = plan.map (·.request)
  /-- No call but the publication was answered in another way then. -/
  granted : ∀ o, r = .ok o → ∀ e ∈ calls, e.request = mainUpload config dir ∨ e ∈ plan
  /-- The outcome tells whether the cassettes were published. -/
  published : ∀ o, r = .ok o →
    (o.cassettesUploaded = true ↔ ⟨mainUpload config dir, .ok ()⟩ ∈ calls)
  /-- There is none exactly if a call was fatal. -/
  failing : (∃ failure, r = .error failure) ↔ ∃ e ∈ calls, Fatal e

namespace Keeps

/-- The first call of the plan is fatal. -/
theorem refused {q : Request} {a : q.Answer} (h : Fatal ⟨q, a⟩) (b : q.Answer) (failure : Failure)
    (plan : Transcript) : Keeps config dir (⟨q, b⟩ :: plan) [⟨q, a⟩] (.error failure) := by
  refine ⟨.last a b plan, nofun, nofun, nofun, ?failing⟩
  exact iff_of_true ⟨failure, rfl⟩ ⟨_, List.mem_singleton_self _, h⟩

/-- There is nothing left to do. -/
theorem done {o : RefreshOutcome} (h : o.cassettesUploaded = false) :
    Keeps config dir [] [] (.ok o) := by
  refine ⟨.stop [], fun _ _ => rfl, fun _ _ => List.forall_mem_nil _, ?published, ?failing⟩
  case published =>
    intro o' ho'
    obtain rfl := Except.ok.inj ho'
    rw [h]
    exact iff_of_false nofun List.not_mem_nil
  case failing =>
    refine iff_of_false nofun ?_
    rintro ⟨e, he, -⟩
    exact List.not_mem_nil he

/-- The cassettes are offered to the store, whatever it says. -/
theorem offered {o : RefreshOutcome} (a : Except ServiceFault Unit)
    (h : o.cassettesUploaded = true ↔ a = .ok ()) :
    Keeps config dir [⟨mainUpload config dir, .ok ()⟩] [⟨mainUpload config dir, a⟩] (.ok o) := by
  have hlast : Follows [⟨mainUpload config dir, a⟩] [⟨mainUpload config dir, .ok ()⟩] :=
    .last (q := mainUpload config dir) a (.ok ()) []
  refine ⟨hlast, fun _ _ => rfl, ?granted, ?published, ?failing⟩
  case granted =>
    intro o' _
    exact List.forall_mem_singleton.2 (Or.inl rfl)
  case published =>
    intro o' ho'
    obtain rfl := Except.ok.inj ho'
    rw [h, List.mem_singleton]
    constructor
    · intro ha
      rw [ha]
    · intro hcall
      cases hcall
      rfl
  case failing =>
    -- a publication is not among what a refresh cannot go on without
    refine iff_of_false nofun ?_
    rintro ⟨e, he, hfatal⟩
    rw [List.mem_singleton.1 he] at hfatal
    exact nomatch hfatal

/-- **A part keeps to its plan behind calls that were answered well.** -/
theorem prepend (h : Keeps config dir plan calls r) {front : Transcript}
    (hfront : ∀ e ∈ front, Preliminary config dir e) :
    Keeps config dir (front ++ plan) (front ++ calls) r := by
  refine ⟨h.follows.append_left front, ?complete, ?granted, ?published, ?failing⟩
  case complete =>
    intro o ho
    rw [List.map_append, List.map_append, h.complete o ho]
  case granted =>
    intro o ho e he
    rcases List.mem_append.1 he with he | he
    · exact Or.inr (List.mem_append_left _ he)
    · exact (h.granted o ho e he).imp_right (List.mem_append_right _)
  case published =>
    intro o ho
    rw [h.published o ho, List.mem_append, or_iff_right]
    intro hmem
    exact (hfront _ hmem).2 rfl
  case failing =>
    rw [h.failing]
    constructor
    · rintro ⟨e, he, hfatal⟩
      exact ⟨e, List.mem_append_right _ he, hfatal⟩
    · rintro ⟨e, he, hfatal⟩
      rcases List.mem_append.1 he with he | he
      · exact absurd hfatal (hfront e he).1
      · exact ⟨e, he, hfatal⟩

end Keeps

/-! ## Refreshes keep to the plan -/

theorem preliminary_savedPlan : ∀ e ∈ savedPlan config request dir, Preliminary config dir e :=
  List.forall_mem_cons.2 ⟨⟨nofun, nofun⟩, List.forall_mem_singleton.2 ⟨nofun, nofun⟩⟩

theorem preliminary_replayPlan : ∀ e ∈ replayPlan config request dir run, Preliminary config dir e :=
  List.forall_mem_append.2 ⟨preliminary_savedPlan, List.forall_mem_singleton.2 ⟨nofun, nofun⟩⟩

theorem testCalls_savedPart :
    (savedPart config request dir).testCalls = savedPlan config request dir := rfl

theorem testCalls_replayed (l : Except ServiceFault Unit) :
    (savedPart config request dir ++ replayPart config request dir run l).testCalls
      = replayPlan config request dir run := by
  rw [Transcript.testCalls_append, testCalls_savedPart]
  unfold replayPart replayPlan
  simp

theorem testCalls_recordPart (l : Except ServiceFault Unit) :
    (recordPart config request dir run record l).testCalls = [recordCall config dir run record] := by
  unfold recordPart
  rw [Transcript.testCalls_append, testCalls_parallelPart, Transcript.testCalls_logged]
  rfl

theorem PublishWork.keeps {uploaded : Bool} (h : PublishWork config dir record ts uploaded)
    {o : RefreshOutcome} (ho : o.cassettesUploaded = uploaded) :
    Keeps config dir (publishPlan config dir record) ts.testCalls (.ok o) := by
  unfold publishPlan
  cases h with
  | nothing hp =>
      rw [hp]
      exact .done ho
  | accepted hp =>
      rw [hp]
      exact .offered (.ok ()) (iff_of_true ho rfl)
  | declined hp e =>
      rw [hp]
      exact .offered (.error e) (by simp [ho])

theorem RepairWork.keeps (h : RepairWork config request dir run ts r) :
    ∃ record, Keeps config dir (recordCall config dir run record :: publishPlan config dir record)
      ts.testCalls r := by
  cases h with
  | refused e =>
      rw [testCalls_parallelPart]
      exact ⟨.empty, .refused (.runEach _ _) _ _ _⟩
  | recorded record l hp =>
      refine ⟨record, ?_⟩
      rw [Transcript.testCalls_append, Transcript.testCalls_append, testCalls_recordPart,
        Transcript.testCalls_emitted, List.append_nil]
      have hcall : ∀ e ∈ ([recordCall config dir run record] : Transcript),
          Preliminary config dir e := List.forall_mem_singleton.2 ⟨nofun, nofun⟩
      exact (hp.keeps rfl).prepend hcall

/-- Nothing is left to do behind a replay that stops a refresh. -/
theorem keeps_replayPlan (h : (run.result.crashed || run.result.failed.isEmpty) = true) :
    Keeps config dir (callPlan config request dir run record) (replayPlan config request dir run)
      (.ok (replayOutcome run)) := by
  have hdone : Keeps config dir [] [] (.ok (replayOutcome run)) := .done rfl
  have hfront : ∀ e ∈ replayPlan config request dir run, Preliminary config dir e :=
    preliminary_replayPlan
  have hreplay := hdone.prepend hfront
  rw [List.append_nil] at hreplay
  rwa [callPlan_of_stop h]

/-- **Every refresh keeps to the plan.** -/
theorem Course.keeps (h : Course config request t r) :
    ∃ dir run record, Keeps config dir (callPlan config request dir run record) t.testCalls r := by
  cases h with
  | unfetched e => exact ⟨default, .empty, .empty, .refused (.fetch _ _ _ _) _ _ _⟩
  | unsaved dir e =>
      have hfetched : ∀ e ∈ ([⟨mainFetch config, .ok dir⟩] : Transcript), Preliminary config dir e :=
        List.forall_mem_singleton.2 ⟨nofun, nofun⟩
      have hbackup : Fatal ⟨backupRequest config request dir, .error e⟩ := .backup _ _ _ _ _
      exact ⟨dir, .empty, .empty, (Keeps.refused hbackup _ _ _).prepend hfetched⟩
  | unreplayed dir e =>
      refine ⟨dir, .empty, .empty, ?_⟩
      rw [Transcript.testCalls_append, testCalls_savedPart, callPlan_of_stop rfl]
      exact Keeps.prepend (.refused (.runTests _ _) _ _ _) preliminary_savedPlan
  | crashed dir run l hc =>
      refine ⟨dir, run, .empty, ?_⟩
      rw [Transcript.testCalls_append, testCalls_replayed]
      exact keeps_replayPlan (by rw [hc, Bool.true_or])
  | clean dir run l hc hf =>
      refine ⟨dir, run, .empty, ?_⟩
      rw [testCalls_replayed]
      exact keeps_replayPlan (by rw [hf, Bool.or_true])
  | repairing dir run l hc hf hw =>
      obtain ⟨record, hrest⟩ := hw.keeps
      refine ⟨dir, run, record, ?_⟩
      rw [Transcript.testCalls_append, testCalls_replayed, callPlan_of_failed hc hf]
      exact hrest.prepend preliminary_replayPlan

/-! ## The single calls -/

/-- What is kept to by a refresh with the transcript `t` that ends in `r`. The cassettes were fetched
    to `dir`, and the phases came out as `run` and `record`, as far as they were run. -/
structure RefreshProtocol (config : Config) (request : RefreshRequest) (dir : Path)
    (run record : PhaseRun) (t : Transcript) (r : Except Failure RefreshOutcome) : Prop where
  /-- The calls come in one order, each at most once. -/
  ordered : t.testCalls.map (·.request) <+:
    [mainFetch config, backupRequest config request dir, .runTests (replayOptions config dir),
      .runEach (recordOptions config dir run), mainUpload config dir]
  /-- Only the last call can have been refused. -/
  answered : t.testCalls.dropLast <+: callPlan config request dir run record
  /-- Whatever else is called for, the cassettes were fetched and a copy of them was stored before. -/
  saved : ∀ q ∈ t.testCalls.map (·.request), q ≠ mainFetch config →
    q ≠ backupRequest config request dir → savedPlan config request dir <+: t.testCalls
  /-- Exactly what failed in the replay is recorded, and only behind a replay that did not crash. -/
  recording : ∀ options, .runEach options ∈ t.testCalls.map (·.request) →
    options = recordOptions config dir run ∧
    run.result.crashed = false ∧ run.result.failed.isEmpty = false ∧
    replayPlan config request dir run <+: t.testCalls
  /-- The shared cassettes are replaced by those in the same place only, and only behind a recording
      in which some test passed. -/
  publishing : ∀ source version, .upload source .main version ∈ t.testCalls.map (·.request) →
    source = dir ∧ record.result.passed.isEmpty = false ∧
    replayPlan config request dir run ++ [recordCall config dir run record] <+: t.testCalls
  /-- The outcome tells whether they were replaced. -/
  published : ∀ o, r = .ok o →
    (o.cassettesUploaded = true ↔ ⟨mainUpload config dir, .ok ()⟩ ∈ t)
  /-- An outcome is only returned behind all calls of the plan. -/
  complete : ∀ o, r = .ok o →
    t.testCalls.map (·.request) = (callPlan config request dir run record).map (·.request)
  /-- All of them but the publication were answered as planned then. -/
  granted : ∀ o, r = .ok o → ∀ e ∈ t.testCalls,
    e.request = mainUpload config dir ∨ e ∈ callPlan config request dir run record
  /-- A refused fetch, backup or run of tests is all that fails a refresh. -/
  failing : (∃ failure, r = .error failure) ↔ ∃ e ∈ t, Fatal e

/-- The plan ends behind the replay, behind the recording or behind the publication. -/
theorem callPlan_cases (config : Config) (request : RefreshRequest) (dir : Path)
    (run record : PhaseRun) :
    callPlan config request dir run record = replayPlan config request dir run ∨
    (run.result.crashed = false ∧ run.result.failed.isEmpty = false ∧
      (callPlan config request dir run record
          = replayPlan config request dir run ++ [recordCall config dir run record] ∨
        (record.result.passed.isEmpty = false ∧ callPlan config request dir run record
          = replayPlan config request dir run
            ++ [recordCall config dir run record, ⟨mainUpload config dir, .ok ()⟩]))) := by
  cases hstop : run.result.crashed || run.result.failed.isEmpty with
  | true => exact Or.inl (callPlan_of_stop hstop)
  | false =>
      obtain ⟨hc, hf⟩ := Bool.or_eq_false_iff.1 hstop
      refine Or.inr ⟨hc, hf, ?_⟩
      rw [callPlan_of_failed hc hf]
      unfold publishPlan
      cases hp : record.result.passed.isEmpty with
      | true => exact Or.inl rfl
      | false => exact Or.inr ⟨rfl, rfl⟩

/-- The fetch and the backup come first, whatever follows. -/
theorem savedPlan_prefix (config : Config) (request : RefreshRequest) (dir : Path)
    (run record : PhaseRun) :
    ∃ rest, callPlan config request dir run record = savedPlan config request dir ++ rest := by
  unfold callPlan replayPlan
  rw [List.append_assoc]
  exact ⟨_, rfl⟩

theorem requests_savedPlan : (savedPlan config request dir).map (·.request)
    = [mainFetch config, backupRequest config request dir] := rfl

theorem requests_replayPlan : (replayPlan config request dir run).map (·.request)
    = [mainFetch config, backupRequest config request dir, .runTests (replayOptions config dir)] :=
  rfl

/-- **Calls that keep to the plan keep to the protocol.** -/
theorem Keeps.refreshProtocol
    (h : Keeps config dir (callPlan config request dir run record) t.testCalls r) :
    RefreshProtocol config request dir run record t r := by
  have plan := callPlan_cases config request dir run record
  refine ⟨?ordered, h.follows.dropLast_prefix, ?saved, ?recording, ?publishing, ?published,
    h.complete, h.granted, h.failing.trans exists_fatal_testCalls⟩
  case ordered =>
    refine h.follows.requests_prefix.trans ?_
    rcases plan with plan | ⟨-, -, plan | ⟨-, plan⟩⟩
    · rw [plan]
      exact ⟨_, rfl⟩
    · rw [plan]
      exact ⟨_, rfl⟩
    · rw [plan]
      exact ⟨[], rfl⟩
  case saved =>
    intro q hq hfetch hbackup
    obtain ⟨rest, hrest⟩ := savedPlan_prefix config request dir run record
    have hfront : q ∉ (savedPlan config request dir).map (·.request) := by
      rw [requests_savedPlan, List.mem_cons, List.mem_singleton, not_or]
      exact ⟨hfetch, hbackup⟩
    have hfollows := h.follows
    rw [hrest] at hfollows
    exact hfollows.prefix_of_mem hq hfront
  case recording =>
    intro options hq
    have hfront : Request.runEach options ∉ (replayPlan config request dir run).map (·.request) := by
      rw [requests_replayPlan]
      simp [mainFetch, backupRequest]
    have hfollows := h.follows
    rcases plan with plan | ⟨hc, hf, plan | ⟨hp, plan⟩⟩
    · rw [plan] at hfollows
      exact absurd (hfollows.request_mem hq) hfront
    · rw [plan] at hfollows
      have hlast := List.mem_singleton.1 (hfollows.mem_rest hq hfront)
      exact ⟨Request.runEach.inj hlast, hc, hf, hfollows.prefix_of_mem hq hfront⟩
    · rw [plan] at hfollows
      -- the only other call behind the replay is the publication
      rcases List.mem_cons.1 (hfollows.mem_rest hq hfront) with hrecord | hpublish
      · exact ⟨Request.runEach.inj hrecord, hc, hf, hfollows.prefix_of_mem hq hfront⟩
      · exact absurd (List.mem_singleton.1 hpublish) nofun
  case publishing =>
    intro source version hq
    have hreplay : Request.upload source .main version
        ∉ (replayPlan config request dir run).map (·.request) := by
      rw [requests_replayPlan]
      simp [mainFetch, backupRequest]
    have hfront : Request.upload source .main version
        ∉ (replayPlan config request dir run ++ [recordCall config dir run record]).map
          (·.request) := by
      rw [List.map_append, List.mem_append, not_or]
      exact ⟨hreplay, by simp [recordCall]⟩
    have hfollows := h.follows
    rcases plan with plan | ⟨hc, hf, plan | ⟨hp, plan⟩⟩
    · rw [plan] at hfollows
      exact absurd (hfollows.request_mem hq) hreplay
    · rw [plan] at hfollows
      exact absurd (hfollows.request_mem hq) hfront
    · rw [plan, List.append_cons] at hfollows
      have hlast := List.mem_singleton.1 (hfollows.mem_rest hq hfront)
      exact ⟨(Request.upload.inj hlast).1, hp, hfollows.prefix_of_mem hq hfront⟩
  case published =>
    intro o ho
    rw [h.published o ho]
    unfold Transcript.testCalls
    rw [List.mem_filter]
    exact and_iff_left rfl

/-- **The calls of a nightly refresh at the runner and the store, and what comes of them**, whatever
    the collaborators answer. -/
theorem nightly_refreshProtocol (h : Runs (nightly config request) t r) :
    ∃ dir run record, RefreshProtocol config request dir run record t r := by
  obtain ⟨dir, run, record, hkeeps⟩ := (course_nightly h).keeps
  exact ⟨dir, run, record, hkeeps.refreshProtocol⟩

/-- A refresh that makes all of the calls and publishes what it recorded, at a store that takes no
    logs. -/
theorem nightly_refreshProtocol_repaired :
    ∃ t o, Runs (nightly sampleConfig sampleRequest) t (.ok o) ∧ t.testCalls.length = 5 ∧
      o.cassettesUploaded = true ∧
      ∃ dir run record,
        RefreshProtocol sampleConfig sampleRequest dir run record t (.ok o) := by
  have h := runs_sampleRefresh (samplePhase .fail) (samplePhase .pass)
    { ScriptedStores.willing with failLogs := true }
  obtain ⟨o, ho, hcalls, huploaded⟩ : ∃ o,
      (sampleRefresh (samplePhase .fail) (samplePhase .pass)
        { ScriptedStores.willing with failLogs := true }).1 = .ok o ∧
      (sampleRefresh (samplePhase .fail) (samplePhase .pass)
        { ScriptedStores.willing with failLogs := true }).2.testCalls.length = 5 ∧
      o.cassettesUploaded = true := ⟨_, rfl, by decide, by decide⟩
  rw [ho] at h
  exact ⟨_, o, h, hcalls, huploaded, nightly_refreshProtocol h⟩

end Nightly

end CassetteGate
