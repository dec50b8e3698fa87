import CassetteGate.Proofs.Pipeline.Follows
import CassetteGate.Proofs.Presubmit.Course

/-!
# `Proofs.Presubmit.CallOrder` — what a presubmit run asks of the runner and the store

Every run of the tests in RECORDING mode calls live services, and every upload replaces cassettes
that other runs replay. So it matters which calls a run makes, in which order, and on what grounds.
Whatever the collaborators answer, the calls are a beginning of one list: the fetch, the replay
calls, one recording, one upload, one replay of what was recorded. Where the list is left is decided
by the answers; `callPlan` cuts it off where the answers call for no further step, and a run follows
this plan.

## Contents
- **`confirmPlan`**, **`recordPlan`**, **`callPlan`**: the plan of each stage, given the answers.
- **`ReplayWork.follows`**, **`Course.follows`**: runs follow it.
- **`CallProtocol`**, and **`presubmit_callProtocol`**: what that means for the single calls.
-/

namespace CassetteGate

namespace Presubmit

open Pipeline

/-! ## The plan -/

section Plan

variable (config : Config) (rules : SurfaceRules) (request : ChangeRequest) (dir : Path)

/-- Publishing and replaying what was recorded. -/
def confirmPlan (testDirs recorded : List String) (confirm : PhaseRun) : Transcript :=
  [⟨publishRequest config request dir, .ok ()⟩,
    ⟨.runEach (phaseOptions config .replaying dir testDirs recorded), .ok confirm⟩]

/-- Recording what failed; it is published unless the provider crashed or nothing passed. -/
def recordPlan (testDirs failed : List String) (record confirm : PhaseRun) : Transcript :=
  ⟨.runEach (phaseOptions config .recording dir testDirs failed), .ok record⟩
  :: if record.result.crashed || record.result.passed.isEmpty then []
     else confirmPlan config request dir testDirs record.result.passed.toList confirm

/-- The fetch and the replay of a surface. -/
def replayPlan (replays : List PhaseRun) : Transcript :=
  ⟨fetchRequest config request, .ok dir⟩
  :: ran (replayOptions config rules (rules.surface request.changedFiles) dir) replays

/-- All calls of a run; nothing is recorded unless tests failed and the provider did not crash. -/
def callPlan (replays : List PhaseRun) (record confirm : PhaseRun) : Transcript :=
  let surface := rules.surface request.changedFiles
  let replay := (mergedReplay surface replays).result
  replayPlan config rules request dir replays
  ++ if replay.crashed || replay.failed.isEmpty then []
     else recordPlan config request dir (replayDirs rules surface) replay.failed.toList record confirm

end Plan

variable {config : Config} {rules : SurfaceRules} {request : ChangeRequest} {dir : Path}
  {state : RunState} {ts t : Transcript}

/-! ## Runs follow the plan -/

theorem ConfirmWork.follows {recorded : List String} {w : Except Failure RunState}
    (h : ConfirmWork config request dir state recorded ts w) :
    ∃ confirm, Follows ts.testCalls
      (confirmPlan config request dir state.testDirs recorded confirm) := by
  cases h with
  | unpublished e => exact ⟨.empty, .last _ _ _⟩
  | refused e =>
      refine ⟨.empty, ?_⟩
      simp only [publishRequest, Transcript.testCalls_cons, Request.isTestCall, if_true,
        request_emitted, Bool.false_eq_true, if_false, testCalls_parallelPart]
      exact .go _ (.last _ _ _)
  | confirmed confirm l =>
      refine ⟨confirm, ?_⟩
      simp only [confirmPart, publishRequest, Transcript.testCalls_append, Transcript.testCalls_cons,
        Request.isTestCall, if_true, request_emitted, Bool.false_eq_true, if_false,
        testCalls_parallelPart, Transcript.testCalls_logged, Transcript.testCalls_emitted,
        List.append_nil]
      exact .refl _

@[simp] theorem testCalls_recordPart (failed : List String) (record : PhaseRun)
    (l : Except ServiceFault Unit) :
    (recordPart config request dir state failed record l).testCalls
      = [⟨.runEach (phaseOptions config .recording dir state.testDirs failed), .ok record⟩] := by
  unfold recordPart
  rw [Transcript.testCalls_append, testCalls_parallelPart, Transcript.testCalls_logged]
  rfl

theorem RecordWork.follows {failed : List String} {w : Except Failure RunState}
    (h : RecordWork config request dir state failed ts w) :
    ∃ record confirm, Follows ts.testCalls
      (recordPlan config request dir state.testDirs failed record confirm) := by
  cases h with
  | refused e =>
      rw [testCalls_parallelPart]
      exact ⟨.empty, .empty, .last _ _ _⟩
  | crashed record l hc =>
      -- the run stops behind the recording, whatever the plan has behind it
      rw [Transcript.testCalls_append, testCalls_recordPart]
      exact ⟨record, .empty, .go _ (.stop _)⟩
  | nothing record l hc hp =>
      rw [Transcript.testCalls_append, testCalls_recordPart]
      exact ⟨record, .empty, .go _ (.stop _)⟩
  | confirming record l hc hp hw =>
      obtain ⟨confirm, hfollows⟩ := hw.follows
      refine ⟨record, confirm, ?_⟩
      unfold recordPlan
      rw [Transcript.testCalls_append, testCalls_recordPart, hc, hp]
      exact .go _ hfollows

/-- Replay calls that end in a refusal follow any plan for them that has the answers before. -/
theorem Replayed.follows {options : List RunOptions} {failure : Failure}
    (h : Replayed options ts (.error failure)) :
    ∃ runs, runs.length = options.length ∧ Follows ts.testCalls (ran options runs) := by
  cases h with
  | refused front o rest runs e ho hl =>
      -- an answer is missing from the refused call on, and the plan takes an empty one
      refine ⟨runs ++ .empty :: List.replicate rest.length .empty, ?_, ?_⟩
      · rw [ho, List.length_append, List.length_append, hl, List.length_cons, List.length_cons,
          List.length_replicate]
      · have parts : ran options (runs ++ .empty :: List.replicate rest.length .empty)
            = ran front runs
              ++ ⟨.runTests o, .ok .empty⟩ :: ran rest (List.replicate rest.length .empty) := by
          unfold ran
          rw [ho, List.zipWith_append hl.symm]
          rfl
        rw [parts, Transcript.testCalls_append, testCalls_ran]
        exact (Follows.last _ _ _).append_left _

@[simp] theorem testCalls_replayPart (surface : ChangeSurface) (runs : List PhaseRun)
    (l : Except ServiceFault Unit) :
    (replayPart config rules request dir surface runs l).testCalls
      = ran (replayOptions config rules surface dir) runs := by
  unfold replayPart
  simp

/-- The work behind a fetch, and the fetch, follow the plan. -/
theorem ReplayWork.follows {w : Except Failure RunState}
    (h : ReplayWork config rules request dir (rules.surface request.changedFiles) ts w) :
    ∃ replays record confirm,
      replays.length = (replayOptions config rules (rules.surface request.changedFiles) dir).length ∧
      Follows (⟨fetchRequest config request, .ok dir⟩ :: ts.testCalls)
        (callPlan config rules request dir replays record confirm) := by
  cases h with
  | refused ts failure hr =>
      obtain ⟨runs, hl, hfollows⟩ := hr.follows
      refine ⟨runs, .empty, .empty, hl, ?_⟩
      exact (hfollows.append_left [⟨fetchRequest config request, .ok dir⟩]).append_right _
  | crashed runs l hl hc =>
      rw [Transcript.testCalls_append, testCalls_replayPart]
      refine ⟨runs, .empty, .empty, hl, ?_⟩
      exact (Follows.stop _).append_left (replayPlan config rules request dir runs)
  | clean runs l hl hc hf =>
      rw [testCalls_replayPart]
      exact ⟨runs, .empty, .empty, hl, (Follows.refl _).append_right _⟩
  | recording runs l hl hc hf hw =>
      obtain ⟨record, confirm, hfollows⟩ := hw.follows
      refine ⟨runs, record, confirm, hl, ?_⟩
      have plan : callPlan config rules request dir runs record confirm
          = replayPlan config rules request dir runs
            ++ recordPlan config request dir (replayDirs rules (rules.surface request.changedFiles))
              (mergedReplay (rules.surface request.changedFiles) runs).result.failed.toList
              record confirm := by
        simp [callPlan, hc, hf]
      rw [Transcript.testCalls_append, testCalls_replayPart, plan]
      exact hfollows.append_left (replayPlan config rules request dir runs)

/-- The calls of a run: none if there is nothing to test, else a refused fetch, or a fetch and the
    calls of the work behind it. -/
theorem Course.testCalls_cases {r : Except Failure Outcome} (h : Course config rules request t r) :
    ((rules.surface request.changedFiles).isEmpty = true ∧ t.testCalls = []) ∨
    ((rules.surface request.changedFiles).isEmpty = false ∧
      ((∃ e, t.testCalls = [⟨fetchRequest config request, .error e⟩]) ∨
        ∃ dir ts w, t.testCalls = ⟨fetchRequest config request, .ok dir⟩ :: ts.testCalls ∧
          ReplayWork config rules request dir (rules.surface request.changedFiles) ts w)) := by
  cases h with
  | idle hs => exact Or.inl ⟨hs, rfl⟩
  | unfetched hs e => exact Or.inr ⟨hs, Or.inl ⟨e, rfl⟩⟩
  | abandoned hs dir a b hw =>
      refine Or.inr ⟨hs, Or.inr ⟨dir, _, _, ?_, hw⟩⟩
      simp [fetchRequest]
  | finished hs dir a b c hw =>
      refine Or.inr ⟨hs, Or.inr ⟨dir, _, _, ?_, hw⟩⟩
      simp [fetchRequest]

/-- **The calls of a run follow the plan**, unless there is nothing to test. -/
theorem Course.follows {r : Except Failure Outcome} (h : Course config rules request t r) :
    ((rules.surface request.changedFiles).isEmpty = true ∧ t.testCalls = []) ∨
    ((rules.surface request.changedFiles).isEmpty = false ∧ ∃ dir replays record confirm,
      replays.length = (replayOptions config rules (rules.surface request.changedFiles) dir).length ∧
      Follows t.testCalls (callPlan config rules request dir replays record confirm)) := by
  rcases h.testCalls_cases with hidle | ⟨hs, ⟨e, hcalls⟩ | ⟨dir, ts, w, hcalls, hw⟩⟩
  · exact Or.inl hidle
  · rw [hcalls]
    refine Or.inr ⟨hs, default, List.replicate _ .empty, .empty, .empty, List.length_replicate, ?_⟩
    exact .last _ _ _
  · obtain ⟨replays, record, confirm, hl, hfollows⟩ := hw.follows
    rw [hcalls]
    exact Or.inr ⟨hs, dir, replays, record, confirm, hl, hfollows⟩

/-! ## What that means for the single calls -/

section Protocol

variable (config : Config) (rules : SurfaceRules) (request : ChangeRequest) (dir : Path)
  (replays : List PhaseRun) (record confirm : PhaseRun)

/-- The call that records what failed in the replay. -/
def recordOptions : RunOptions :=
  let surface := rules.surface request.changedFiles
  phaseOptions config .recording dir (replayDirs rules surface)
    (mergedReplay surface replays).result.failed.toList

/-- The call that replays what was recorded. -/
def confirmOptions : RunOptions :=
  phaseOptions config .replaying dir (replayDirs rules (rules.surface request.changedFiles))
    record.result.passed.toList

/-- The recording, with its result. -/
def recordCall : Exchange Request.Answer :=
  ⟨.runEach (recordOptions config rules request dir replays), .ok record⟩

/-- The upload, accepted. -/
def publishCall : Exchange Request.Answer := ⟨publishRequest config request dir, .ok ()⟩

/-- The replay of what was recorded, with its result. -/
def confirmCall : Exchange Request.Answer :=
  ⟨.runEach (confirmOptions config rules request dir record), .ok confirm⟩

/-- What a run asks the runner and the store for if nothing stops it. -/
def callOrder : List Request :=
  fetchRequest config request
  :: (replayOptions config rules (rules.surface request.changedFiles) dir).map .runTests
  ++ [.runEach (recordOptions config rules request dir replays), publishRequest config request dir,
      .runEach (confirmOptions config rules request dir record)]

/-- What is kept to by the calls of a run at the runner and the store. The cassettes were fetched to
    `dir`, and the phases came out as `replays`, `record` and `confirm`, as far as they were run. -/
structure CallProtocol (calls : Transcript) : Prop where
  /-- Nothing is called for if there is nothing to test. -/
  silent : (rules.surface request.changedFiles).isEmpty = true → calls = []
  /-- Every replay call has its result. -/
  replayed : replays.length
    = (replayOptions config rules (rules.surface request.changedFiles) dir).length
  /-- The calls come in one order, each at most once. -/
  ordered : calls.map (·.request) <+: callOrder config rules request dir replays record
  /-- Only the last call can have been refused. -/
  answered : calls.dropLast <+: callPlan config rules request dir replays record confirm
  /-- Exactly what failed in the replay is recorded, and only behind a replay that did not crash. -/
  recording : ∀ options, .runEach options ∈ calls.map (·.request) → options.mode = .recording →
    options = recordOptions config rules request dir replays ∧
    (mergedReplay (rules.surface request.changedFiles) replays).result.crashed = false ∧
    (mergedReplay (rules.surface request.changedFiles) replays).result.failed.isEmpty = false ∧
    replayPlan config rules request dir replays <+: calls
  /-- Cassettes are published for the head branch only, and only behind a recording that did not
      crash and that some test passed. -/
  publishing : ∀ source target version, .upload source target version ∈ calls.map (·.request) →
    target = .head request.target.headRef ∧
    record.result.crashed = false ∧ record.result.passed.isEmpty = false ∧
    replayPlan config rules request dir replays
      ++ [recordCall config rules request dir replays record] <+: calls
  /-- Exactly what passed in the recording is replayed, and only if it was published. -/
  confirming : ∀ options, .runEach options ∈ calls.map (·.request) → options.mode = .replaying →
    options = confirmOptions config rules request dir record ∧
    replayPlan config rules request dir replays
      ++ [recordCall config rules request dir replays record,
          publishCall config request dir] <+: calls

end Protocol

variable {replays : List PhaseRun} {record confirm : PhaseRun}

/-- The plan ends behind the replay, behind the recording or not before its end. -/
theorem callPlan_cases (config : Config) (rules : SurfaceRules) (request : ChangeRequest) (dir : Path)
    (replays : List PhaseRun) (record confirm : PhaseRun) :
    callPlan config rules request dir replays record confirm
      = replayPlan config rules request dir replays ∨
    ((mergedReplay (rules.surface request.changedFiles) replays).result.crashed = false ∧
      (mergedReplay (rules.surface request.changedFiles) replays).result.failed.isEmpty = false ∧
      (callPlan config rules request dir replays record confirm
          = replayPlan config rules request dir replays
            ++ [recordCall config rules request dir replays record] ∨
        (record.result.crashed = false ∧ record.result.passed.isEmpty = false ∧
          callPlan config rules request dir replays record confirm
            = replayPlan config rules request dir replays
              ++ [recordCall config rules request dir replays record,
                  publishCall config request dir,
                  confirmCall config rules request dir record confirm]))) := by
  unfold callPlan recordPlan
  -- one split for each place where the plan is cut off
  by_cases hreplay : ((mergedReplay (rules.surface request.changedFiles) replays).result.crashed
      || (mergedReplay (rules.surface request.changedFiles) replays).result.failed.isEmpty) = true
  · refine Or.inl ?_
    simp only [if_pos hreplay, List.append_nil]
  · simp only [if_neg hreplay]
    rw [Bool.not_eq_true, Bool.or_eq_false_iff] at hreplay
    refine Or.inr ⟨hreplay.1, hreplay.2, ?_⟩
    by_cases hrecord : (record.result.crashed || record.result.passed.isEmpty) = true
    · refine Or.inl ?_
      simp only [if_pos hrecord]
      rfl
    · simp only [if_neg hrecord]
      rw [Bool.not_eq_true, Bool.or_eq_false_iff] at hrecord
      exact Or.inr ⟨hrecord.1, hrecord.2, rfl⟩

/-- The requests of answered replay calls. -/
theorem requests_ran {options : List RunOptions} {runs : List PhaseRun}
    (hl : runs.length = options.length) :
    (ran options runs).map (·.request) = options.map .runTests := by
  induction options generalizing runs with
  | nil => rfl
  | cons o options ih =>
      cases runs with
      | nil => exact absurd hl (by simp)
      | cons run runs =>
          show Request.runTests o :: (ran options runs).map (·.request) = _
          rw [ih (Nat.succ.inj hl)]
          rfl

/-- A request behind the replay is none of the replay. -/
theorem notMem_replayPlan {q : Request}
    (hl : replays.length
      = (replayOptions config rules (rules.surface request.changedFiles) dir).length)
    (hfetch : q ≠ fetchRequest config request) (hrun : ∀ options, q ≠ .runTests options) :
    q ∉ (replayPlan config rules request dir replays).map (·.request) := by
  unfold replayPlan
  rw [List.map_cons, requests_ran hl, List.mem_cons, List.mem_map]
  rintro (h | ⟨options, -, h⟩)
  · exact hfetch h
  · exact hrun options h.symm

/-! A call behind the replay shows how far the plan was carried out, and on what grounds. -/

section Behind

variable {calls : Transcript} {q : Request}

theorem notMem_append_call {front : Transcript} {e : Exchange Request.Answer}
    (hfront : q ∉ front.map (·.request)) (he : q ≠ e.request) :
    q ∉ (front ++ [e]).map (·.request) := by
  rw [List.map_append, List.mem_append]
  rintro (hmem | hmem)
  · exact hfront hmem
  · exact he (List.mem_singleton.1 hmem)

/-- Behind the replay: it did not crash, and tests failed in it. -/
theorem behind_replay
    (h : Follows calls (callPlan config rules request dir replays record confirm))
    (hq : q ∈ calls.map (·.request))
    (hreplay : q ∉ (replayPlan config rules request dir replays).map (·.request)) :
    (mergedReplay (rules.surface request.changedFiles) replays).result.crashed = false ∧
    (mergedReplay (rules.surface request.changedFiles) replays).result.failed.isEmpty = false ∧
    replayPlan config rules request dir replays <+: calls := by
  rcases callPlan_cases config rules request dir replays record confirm with
    plan | ⟨hc, hf, plan | ⟨-, -, plan⟩⟩
  · rw [plan] at h
    exact absurd (h.request_mem hq) hreplay
  · rw [plan] at h
    exact ⟨hc, hf, h.prefix_of_mem hq hreplay⟩
  · rw [plan] at h
    exact ⟨hc, hf, h.prefix_of_mem hq hreplay⟩

/-- Behind the recording: it did not crash, and tests passed in it. -/
theorem behind_record
    (h : Follows calls (callPlan config rules request dir replays record confirm))
    (hq : q ∈ calls.map (·.request))
    (hreplay : q ∉ (replayPlan config rules request dir replays).map (·.request))
    (hrecord : q ≠ .runEach (recordOptions config rules request dir replays)) :
    record.result.crashed = false ∧ record.result.passed.isEmpty = false ∧
    replayPlan config rules request dir replays
      ++ [recordCall config rules request dir replays record] <+: calls ∧
    (q = publishRequest config request dir ∨
      q = .runEach (confirmOptions config rules request dir record)) := by
  rcases callPlan_cases config rules request dir replays record confirm with
    plan | ⟨-, -, plan | ⟨hc, hp, plan⟩⟩
  · rw [plan] at h
    exact absurd (h.request_mem hq) hreplay
  · rw [plan] at h
    exact absurd (List.mem_singleton.1 (h.mem_rest hq hreplay)) hrecord
  · rw [plan, List.append_cons] at h
    have hfront := notMem_append_call (e := recordCall config rules request dir replays record)
      hreplay hrecord
    have hlast := List.mem_cons.1 (h.mem_rest hq hfront)
    exact ⟨hc, hp, h.prefix_of_mem hq hfront, hlast.imp id List.mem_singleton.1⟩

/-- Behind the upload there is one call left. -/
theorem behind_publish
    (h : Follows calls (callPlan config rules request dir replays record confirm))
    (hq : q ∈ calls.map (·.request))
    (hreplay : q ∉ (replayPlan config rules request dir replays).map (·.request))
    (hrecord : q ≠ .runEach (recordOptions config rules request dir replays))
    (hpublish : q ≠ publishRequest config request dir) :
    q = .runEach (confirmOptions config rules request dir record) ∧
    replayPlan config rules request dir replays
      ++ [recordCall config rules request dir replays record,
          publishCall config request dir] <+: calls := by
  obtain ⟨hc, hp, -, hlast⟩ := behind_record h hq hreplay hrecord
  refine ⟨hlast.resolve_left hpublish, ?_⟩
  rcases callPlan_cases config rules request dir replays record confirm with
    plan | ⟨-, -, plan | ⟨-, -, plan⟩⟩
  · rw [plan] at h
    exact absurd (h.request_mem hq) hreplay
  · rw [plan] at h
    exact absurd (List.mem_singleton.1 (h.mem_rest hq hreplay)) hrecord
  · rw [plan, List.append_cons, List.append_cons] at h
    -- neither the replay, nor the recording, nor the upload is this call
    have hfront := notMem_append_call (e := publishCall config request dir)
      (notMem_append_call (e := recordCall config rules request dir replays record) hreplay hrecord)
      hpublish
    have made := h.prefix_of_mem hq hfront
    rwa [List.append_assoc] at made

end Behind

/-- **Calls that follow the plan keep to the protocol.** -/
theorem callProtocol_of_follows {calls : Transcript}
    (hs : (rules.surface request.changedFiles).isEmpty = true → calls = [])
    (hl : replays.length
      = (replayOptions config rules (rules.surface request.changedFiles) dir).length)
    (h : Follows calls (callPlan config rules request dir replays record confirm)) :
    CallProtocol config rules request dir replays record confirm calls := by
  refine ⟨hs, hl, ?ordered, h.dropLast_prefix, ?recording, ?publishing, ?confirming⟩
  case ordered =>
    refine h.requests_prefix.trans ?_
    have order : callOrder config rules request dir replays record
        = (replayPlan config rules request dir replays).map (·.request)
          ++ [.runEach (recordOptions config rules request dir replays),
              publishRequest config request dir,
              .runEach (confirmOptions config rules request dir record)] := by
      unfold replayPlan
      rw [List.map_cons, requests_ran hl]
      rfl
    rw [order]
    -- wherever the plan ends, it is a beginning of this
    rcases callPlan_cases config rules request dir replays record confirm with
      plan | ⟨-, -, plan | ⟨-, -, plan⟩⟩
    · rw [plan]
      exact List.prefix_append _ _
    · rw [plan, List.map_append]
      exact (List.prefix_append_right_inj _).2 ⟨_, rfl⟩
    · rw [plan, List.map_append]
      exact List.prefix_refl _
  case recording =>
    intro options hq hmode
    have hreplay := notMem_replayPlan (q := .runEach options) hl nofun nofun
    obtain ⟨hc, hf, made⟩ := behind_replay h hq hreplay
    refine ⟨?_, hc, hf, made⟩
    by_cases same : options = recordOptions config rules request dir replays
    · exact same
    · have hrecord : Request.runEach options
          ≠ .runEach (recordOptions config rules request dir replays) :=
        fun hrec => same (Request.runEach.inj hrec)
      obtain ⟨-, -, -, hlater⟩ := behind_record h hq hreplay hrecord
      rcases hlater with hpub | hconf
      · exact absurd hpub nofun
      · -- the other call for single tests replays
        rw [Request.runEach.inj hconf] at hmode
        exact absurd hmode nofun
  case publishing =>
    intro source target version hq
    have hreplay := notMem_replayPlan (q := .upload source target version) hl nofun nofun
    obtain ⟨hc, hp, made, hlater⟩ := behind_record h hq hreplay nofun
    rcases hlater with hpub | hconf
    · exact ⟨(Request.upload.inj hpub).2.1, hc, hp, made⟩
    · exact absurd hconf nofun
  case confirming =>
    intro options hq hmode
    have hreplay := notMem_replayPlan (q := .runEach options) hl nofun nofun
    -- a call that replays is not the one that records
    have hrecord : Request.runEach options
        ≠ .runEach (recordOptions config rules request dir replays) := by
      intro same
      rw [Request.runEach.inj same] at hmode
      exact absurd hmode nofun
    obtain ⟨hconf, made⟩ := behind_publish h hq hreplay hrecord nofun
    exact ⟨Request.runEach.inj hconf, made⟩

end Presubmit

end CassetteGate
