import CassetteGate.Proofs.Nightly.CallOrder
import CassetteGate.Proofs.Presubmit.CallOrder

/-!
# `Proofs.CrashedRecording` — what is published behind a crash

A provider that crashes while recording leaves some cassettes half written, also those of tests that
had passed before. A presubmit run looks for a crash first, and publishes nothing then. A nightly
refresh looks for it last: behind a crash it offers the shared cassettes to the store as it would have
without one, if only some test passed. So a refresh withholds cassettes behind a crash exactly as long
as no crashed recording has passed tests (`PartlyRecorded`).

## Contents
- **`recording?`**, **`Withheld`**, **`PartlyRecorded`**: what is looked at in a transcript.
- **`Presubmit.Course.withheld`**, **`Nightly.Course.withheld_iff`**: both kinds of run.
- **`withheld_behind_crash`**: the result.
-/

namespace CassetteGate

open Pipeline

/-! ## Crashes and uploads in a transcript -/

/-- The result of a recording that was carried out. -/
def recording? : Exchange Request.Answer → Option PhaseRun
  | ⟨.runEach options, .ok record⟩ => if options.mode = .recording then some record else none
  | _ => none

/-- Nothing was recorded. -/
def Unrecorded (t : Transcript) : Prop := ∀ e ∈ t, recording? e = none

/-- Whether cassettes are offered to the store. -/
def Pipeline.Request.isUpload : Request → Bool
  | .upload _ _ _ => true
  | _ => false

/-- Behind a crashed recording, no upload of cassettes is attempted. -/
def Withheld (t : Transcript) : Prop :=
  t.Pairwise fun e e' =>
    ∀ record ∈ recording? e, record.result.crashed = true → e'.request.isUpload = false

/-- Some recording crashed when tests had passed in it. -/
def PartlyRecorded (t : Transcript) : Prop :=
  ∃ e ∈ t, ∃ record ∈ recording? e,
    record.result.crashed = true ∧ record.result.passed.isEmpty = false

variable {t front : Transcript} {e : Exchange Request.Answer}

/-- A recording is a call at the runner. -/
theorem isTestCall_of_recording? {record : PhaseRun} (h : record ∈ recording? e) :
    e.request.isTestCall = true := by
  obtain ⟨q, a⟩ := e
  cases q with
  | runEach options => rfl
  | _ => exact absurd h nofun

theorem withheld_testCalls : Withheld t.testCalls ↔ Withheld t := by
  unfold Withheld Transcript.testCalls
  rw [List.pairwise_filter]
  refine ⟨fun h => h.imp ?_, fun h => h.imp ?_⟩
  · intro e e' hcalls record hrecord hc
    cases hcall : e'.request.isTestCall with
    | true => exact hcalls (isTestCall_of_recording? hrecord) hcall record hrecord hc
    | false =>
        -- an upload would be a call at the store
        cases hq : e'.request with
        | upload source target version =>
            rw [hq] at hcall
            cases hcall
        | _ => rfl
  · intro e e' hall _ _
    exact hall

theorem partlyRecorded_testCalls : PartlyRecorded t.testCalls ↔ PartlyRecorded t := by
  constructor
  · rintro ⟨e, he, hpart⟩
    exact ⟨e, (List.mem_filter.1 he).1, hpart⟩
  · rintro ⟨e, he, record, hrecord, hpart⟩
    have hcall : e.request.isTestCall = true := isTestCall_of_recording? hrecord
    exact ⟨e, List.mem_filter.2 ⟨he, hcall⟩, record, hrecord, hpart⟩

/-! Where nothing was recorded, there is nothing to withhold. -/

theorem Unrecorded.notMem (h : Unrecorded t) (he : e ∈ t) (record : PhaseRun) :
    record ∉ recording? e := by
  rw [h e he]
  exact Option.not_mem_none record

theorem withheld_append (hfront : Unrecorded front) : Withheld (front ++ t) ↔ Withheld t := by
  unfold Withheld
  rw [List.pairwise_append]
  refine ⟨fun h => h.2.1, fun h => ⟨?_, h, ?_⟩⟩
  · refine List.pairwise_of_forall_mem_list fun e he e' _ record hrecord => ?_
    exact absurd hrecord (hfront.notMem he record)
  · intro e he e' _ record hrecord
    exact absurd hrecord (hfront.notMem he record)

theorem Unrecorded.withheld (h : Unrecorded t) : Withheld t := by
  rw [← List.append_nil t, withheld_append h]
  exact List.Pairwise.nil

theorem Unrecorded.not_partlyRecorded (h : Unrecorded t) : ¬ PartlyRecorded t := by
  rintro ⟨e, he, record, hrecord, -⟩
  exact h.notMem he record hrecord

theorem partlyRecorded_append (hfront : Unrecorded front) :
    PartlyRecorded (front ++ t) ↔ PartlyRecorded t := by
  constructor
  · rintro ⟨e, he, record, hrecord, hpart⟩
    rcases List.mem_append.1 he with he | he
    · exact absurd hrecord (hfront.notMem he record)
    · exact ⟨e, he, record, hrecord, hpart⟩
  · rintro ⟨e, he, hpart⟩
    exact ⟨e, List.mem_append_right _ he, hpart⟩

theorem Unrecorded.withheld_iff (h : Unrecorded t) : Withheld t ↔ ¬ PartlyRecorded t :=
  iff_of_true h.withheld h.not_partlyRecorded

/-! ## Presubmit runs -/

namespace Presubmit

variable {config : Config} {rules : SurfaceRules} {request : ChangeRequest} {dir : Path}
  {replays : List PhaseRun} {record confirm : PhaseRun}

theorem unrecorded_ran {options : List RunOptions} {runs : List PhaseRun} :
    Unrecorded (ran options runs) := by
  induction options generalizing runs with
  | nil => exact List.forall_mem_nil _
  | cons o options ih =>
      cases runs with
      | nil => exact List.forall_mem_nil _
      | cons run runs => exact List.forall_mem_cons.2 ⟨rfl, ih⟩

theorem unrecorded_replayPlan : Unrecorded (replayPlan config rules request dir replays) :=
  List.forall_mem_cons.2 ⟨rfl, unrecorded_ran⟩

theorem withheld_callPlan :
    Withheld (callPlan config rules request dir replays record confirm) := by
  rcases callPlan_cases config rules request dir replays record confirm with
    plan | ⟨-, -, plan | ⟨hc, -, plan⟩⟩
  · rw [plan]
    exact unrecorded_replayPlan.withheld
  · rw [plan, withheld_append unrecorded_replayPlan]
    exact List.pairwise_singleton _ _
  · -- nothing crashed in front of the upload
    rw [plan, withheld_append unrecorded_replayPlan]
    refine List.pairwise_cons.2 ⟨fun e' _ record' hrecord hcrashed => ?_, ?_⟩
    · obtain rfl : record = record' := Option.some.inj hrecord
      exact absurd (hc.symm.trans hcrashed) nofun
    · refine List.pairwise_cons.2 ⟨fun e' _ record' hrecord => ?_, List.pairwise_singleton _ _⟩
      cases hrecord

theorem Course.withheld {r : Except Failure Outcome} (h : Course config rules request t r) :
    Withheld t := by
  rw [← withheld_testCalls]
  rcases h.follows with ⟨-, hnone⟩ | ⟨-, dir, replays, record, confirm, -, hfollows⟩
  · rw [hnone]
    exact List.Pairwise.nil
  · exact hfollows.pairwise (R := fun e q => ∀ record ∈ recording? e,
      record.result.crashed = true → q.isUpload = false) withheld_callPlan

end Presubmit

/-! ## Nightly refreshes -/

namespace Nightly

variable {config : Config} {request : RefreshRequest} {dir : Path} {run record : PhaseRun}

theorem unrecorded_replayPlan : Unrecorded (replayPlan config request dir run) :=
  List.forall_mem_cons.2 ⟨rfl, List.forall_mem_cons.2 ⟨rfl, List.forall_mem_singleton.2 rfl⟩⟩

/-! What a recording with `record` and the calls behind it, which record nothing more, amount to. -/

theorem withheld_recordCall (h : Unrecorded t) :
    Withheld (recordCall config dir run record :: t) ↔
      (record.result.crashed = true → ∀ e ∈ t, e.request.isUpload = false) := by
  unfold Withheld
  rw [List.pairwise_cons]
  constructor
  · rintro ⟨hbehind, -⟩ hc e he
    exact hbehind e he record rfl hc
  · intro hnone
    refine ⟨fun e he record' hrecord hc => ?_, h.withheld⟩
    obtain rfl : record = record' := Option.some.inj hrecord
    exact hnone hc e he

theorem partlyRecorded_recordCall (h : Unrecorded t) :
    PartlyRecorded (recordCall config dir run record :: t) ↔
      record.result.crashed = true ∧ record.result.passed.isEmpty = false := by
  constructor
  · rintro ⟨e, he, record', hrecord, hpart⟩
    rcases List.mem_cons.1 he with rfl | he
    · obtain rfl : record = record' := Option.some.inj hrecord
      exact hpart
    · exact absurd hrecord (h.notMem he record')
  · intro hpart
    exact ⟨_, List.mem_cons_self, record, rfl, hpart⟩

/-- Behind a recording a refresh offers cassettes if some test passed, and looks at nothing else. -/
theorem PublishWork.withheld_iff {ts : Transcript} {uploaded : Bool}
    (h : PublishWork config dir record ts uploaded) :
    Withheld (recordCall config dir run record :: ts.testCalls) ↔
      ¬ PartlyRecorded (recordCall config dir run record :: ts.testCalls) := by
  have offered : ∀ a : Except ServiceFault Unit, record.result.passed.isEmpty = false →
      (Withheld [recordCall config dir run record, ⟨mainUpload config dir, a⟩] ↔
        ¬ PartlyRecorded [recordCall config dir run record, ⟨mainUpload config dir, a⟩]) := by
    intro a hp
    have hlast : Unrecorded [⟨mainUpload config dir, a⟩] := List.forall_mem_singleton.2 rfl
    rw [withheld_recordCall hlast, partlyRecorded_recordCall hlast, hp, List.forall_mem_singleton]
    show (_ → true = false) ↔ _
    simp
  cases h with
  | nothing hp =>
      have hnone : Unrecorded [] := List.forall_mem_nil _
      refine iff_of_true (List.pairwise_singleton _ _) ?_
      rw [show Transcript.testCalls [emitted _] = [] from rfl, partlyRecorded_recordCall hnone, hp]
      simp
  | accepted hp => exact offered (.ok ()) hp
  | declined hp e => exact offered (.error e) hp

theorem RepairWork.withheld_iff {ts : Transcript} {r : Except Failure RefreshOutcome}
    (h : RepairWork config request dir run ts r) :
    Withheld ts.testCalls ↔ ¬ PartlyRecorded ts.testCalls := by
  cases h with
  | refused e =>
      rw [Presubmit.testCalls_parallelPart]
      have hrefused : Unrecorded [⟨.runEach (recordOptions config dir run), .error e⟩] :=
        List.forall_mem_singleton.2 rfl
      exact hrefused.withheld_iff
  | recorded record l hp =>
      rw [Transcript.testCalls_append, Transcript.testCalls_append, testCalls_recordPart,
        Transcript.testCalls_emitted, List.append_nil]
      exact hp.withheld_iff

theorem Course.withheld_iff {r : Except Failure RefreshOutcome} (h : Course config request t r) :
    Withheld t ↔ ¬ PartlyRecorded t := by
  rw [← withheld_testCalls, ← partlyRecorded_testCalls]
  cases h with
  | unfetched e =>
      exact Unrecorded.withheld_iff (List.forall_mem_singleton.2 rfl)
  | unsaved dir e =>
      exact Unrecorded.withheld_iff (List.forall_mem_cons.2 ⟨rfl, List.forall_mem_singleton.2 rfl⟩)
  | unreplayed dir e =>
      have hsaved : Unrecorded (savedPlan config request dir) :=
        List.forall_mem_cons.2 ⟨rfl, List.forall_mem_singleton.2 rfl⟩
      rw [Transcript.testCalls_append, testCalls_savedPart]
      exact Unrecorded.withheld_iff
        (List.forall_mem_append.2 ⟨hsaved, List.forall_mem_singleton.2 rfl⟩)
  | crashed dir run l hc =>
      rw [Transcript.testCalls_append, testCalls_replayed]
      exact unrecorded_replayPlan.withheld_iff
  | clean dir run l hc hf =>
      rw [testCalls_replayed]
      exact unrecorded_replayPlan.withheld_iff
  | repairing dir run l hc hf hw =>
      rw [Transcript.testCalls_append, testCalls_replayed, withheld_append unrecorded_replayPlan,
        partlyRecorded_append unrecorded_replayPlan]
      exact hw.withheld_iff

end Nightly

/-! ## Both kinds of run -/

/-- **What is published behind a crashed recording**, whatever the collaborators answer: nothing by a
    presubmit run, and nothing by a nightly refresh exactly if no test had passed before the crash. -/
theorem withheld_behind_crash (config : Config) (rules : SurfaceRules) (change : ChangeRequest)
    (refresh : RefreshRequest) (t : Transcript) :
    (∀ r, Runs (presubmit config rules change) t r → Withheld t) ∧
    (∀ r, Runs (nightly config refresh) t r → (Withheld t ↔ ¬ PartlyRecorded t)) := by
  constructor
  · intro r h
    exact (Presubmit.course_presubmit h).withheld
  · intro r h
    exact (Nightly.course_nightly h).withheld_iff

/-- A refresh whose recording crashed behind a test that had passed: it tells of the crash, and the
    shared cassettes are replaced all the same. -/
theorem nightly_not_withheld :
    ∃ t o, Runs (nightly Nightly.sampleConfig Nightly.sampleRequest) t (.ok o) ∧
      o.crashed = some .recording ∧ o.cassettesUploaded = true ∧ ¬ Withheld t := by
  let record : PhaseRun :=
    .ofResult ((RunResult.empty.record .pass "TestAccDisk").addPanic "panic: no such disk")
  have h := Nightly.runs_sampleRefresh (Presubmit.samplePhase .fail) record .willing
  obtain ⟨o, ho, hcrashed, huploaded, hpart⟩ : ∃ o,
      (Nightly.sampleRefresh (Presubmit.samplePhase .fail) record .willing).1 = .ok o ∧
      o.crashed = some .recording ∧ o.cassettesUploaded = true ∧
      PartlyRecorded (Nightly.sampleRefresh (Presubmit.samplePhase .fail) record .willing).2 := by
    refine ⟨_, rfl, by decide, by decide, partlyRecorded_testCalls.1 ?_⟩
    -- the recording is the fourth call
    exact ⟨_, .tail _ (.tail _ (.tail _ (.head _))), record, rfl, by decide, by decide⟩
  rw [ho] at h
  have hiff := (withheld_behind_crash Nightly.sampleConfig Presubmit.sampleRules
    Presubmit.sampleRequest Nightly.sampleRequest _).2 _ h
  exact ⟨_, o, h, hcrashed, huploaded, fun hw => hiff.1 hw hpart⟩

end CassetteGate
