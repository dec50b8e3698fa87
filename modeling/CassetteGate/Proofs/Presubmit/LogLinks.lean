import CassetteGate.Proofs.Presubmit.FinalState
import CassetteGate.Proofs.Presubmit.ReviewPosts
import CassetteGate.Proofs.Report.LinkedText
import CassetteGate.Proofs.Results.Clean
import CassetteGate.Proofs.Storage.LogFiles

/-!
# `Proofs.Presubmit.LogLinks` — the logs that a report links to have been stored

A report is posted last, and it links to logs that the run has published on its way: which ones depends on
how far the run got, and on which tests failed where. The link, the object in the bucket, the copy that
stores it and the file that was written are spelled out in four places. This file follows a log through
all of them, in the history of a run up to its report.

A phase is logged (`PhaseLogged`) if the runner was called for it and its logs were uploaded behind that
call. From then on the bucket has the logs of the phase, and what links to them is a `LinkTarget`. Each
phase that a returned state tells of is logged (`ReplayWork.accounted`), with the tests that it was asked to
run. So every log that the report on the state can link to is there, as long as the phases only name tests
that they were asked for, and tests are named like tests (`WellNamed`).

## Contents
- **`Stored`**, **`LinkTarget`**: objects that are stored, and what may be linked to.
- **`PhaseLogged`**, **`PhaseLogged.exists_stored`**, `PhaseLogged.stored_of_worker`: phases, and their
  files in the bucket.
- **`TestsLogged`**: phases of single tests, and the links to their logs.
- **`Accounted`**, **`ReplayWork.accounted`**: the phases of a run.
- **`WellNamed`**, **`Accounted.linked`**, **`report_links_stored`**: the links of a report.
-/

namespace CassetteGate

/-- The runs of single tests that were asked for, with what came of them. -/
def Transcript.singleCalls (t : Transcript) : List (RunOptions × Except RunnerFault PhaseRun) :=
  t.filterMap fun e =>
    match e with
    | ⟨.runEach options, a⟩ => some (options, a)
    | _ => none

theorem Transcript.singleCalls_append (t t' : Transcript) :
    singleCalls (t ++ t') = singleCalls t ++ singleCalls t' :=
  List.filterMap_append

theorem Transcript.logUploads_append (t t' : Transcript) :
    logUploads (t ++ t') = logUploads t ++ logUploads t' :=
  List.filterMap_append

namespace Presubmit

open Pipeline Report

variable {config : Config} {rules : SurfaceRules} {request : ChangeRequest} {dir : Path}
  {front t ts : Transcript} {test object : String}

/-! ## What may be linked to -/

/-- In this history a file was written by a call of the runner, and behind that, in an upload of the logs
    of its phase, the store made a copy that stored the file under the name of the object. One of the
    commands of the upload made that copy. -/
def Stored (config : Config) (front : Transcript) (object : String) : Prop :=
  ∃ before behind call file logs copy command, front = before ++ behind ∧
    call ∈ before.runnerCalls ∧ call.Writes config file ∧
    logs ∈ behind.logUploads ∧ logs.mode = call.options.mode ∧ logs.parallel = call.parallel ∧
    copy ∈ (Store.ofConfig config).buckets.logCopies (Store.ofConfig config).layout logs ∧
    copy.Stores file object ∧
    command ∈ (Store.ofConfig config).buckets.logCommands (Store.ofConfig config).layout logs ∧
    copy.MadeBy command

/-- What a report may link to, with this history behind it. -/
inductive LinkTarget (config : Config) (front : Transcript) : String → Prop where
  /-- Where one can read about record and replay tests. -/
  | docs : LinkTarget config front docsUrl
  /-- An object that was stored. -/
  | log (path : String) (h : Stored config front ("gs://" ++ path)) :
      LinkTarget config front ("https://storage.cloud.google.com/" ++ path)
  /-- The directory that the debug logs of the recording were copied to, by a command of the upload. -/
  | browser (path : String) {logs : LogUpload} {copy : LogCopy} {command : List String}
      (hlogs : logs ∈ front.logUploads) (hmode : logs.mode = .recording)
      (hcopy : copy ∈ (Store.ofConfig config).buckets.logCopies (Store.ofConfig config).layout logs)
      (hcommand : command ∈
        (Store.ofConfig config).buckets.logCommands (Store.ofConfig config).layout logs)
      (hmade : copy.MadeBy command)
      (hsource : copy.source = config.layout.debugLogDir .recording config.version / "*")
      (hdir : copy.destination = "gs://" ++ path ++ "/") :
      LinkTarget config front ("https://console.cloud.google.com/storage/browser/" ++ path)

/-- What the links of a report are made of names the directory that logs of the run go to. -/
theorem reviewRoot_eq :
    (Store.ofConfig config).buckets.reviewRoot config.version request.target.headRef
        config.build.buildId
      = "gs://" ++ (ReportContext.of config request.target).artifacts ++ "/" := by
  show "gs://" ++ config.logBucket ++ "/" ++ config.version.name ++ "/refs/heads/"
    ++ request.target.headRef ++ "/artifacts/" ++ config.build.buildId ++ "/"
    = "gs://" ++ (config.logBucket ++ "/" ++ config.version.name ++ "/refs/heads/"
      ++ request.target.headRef ++ "/artifacts/" ++ config.build.buildId) ++ "/"
  simp only [String.append_assoc]

theorem target_of_stored {file : String}
    (h : Stored config front ((Store.ofConfig config).buckets.reviewRoot config.version
      request.target.headRef config.build.buildId ++ file)) :
    LinkTarget config front ((ReportContext.of config request.target).logUrl file) := by
  unfold ReportContext.logUrl
  rw [String.append_assoc, String.append_assoc]
  refine .log _ ?_
  rw [reviewRoot_eq] at h
  rw [← String.append_assoc, ← String.append_assoc]
  exact h

/-! ## The logs of a phase -/

/-- In this history the runner was called, and the logs of the phase were uploaded behind the call. -/
def PhaseLogged (config : Config) (request : ChangeRequest) (front : Transcript) (call : RunnerCall)
    (afterRecording : Bool) : Prop :=
  ∃ before behind, front = before ++ behind ∧ call ∈ before.runnerCalls ∧
    phaseLogs config request call.options.mode call.parallel afterRecording ∈ behind.logUploads

namespace PhaseLogged

variable {call : RunnerCall} {after : Bool}

/-- The history may be longer. -/
theorem extend (h : PhaseLogged config request ts call after) (pre post : Transcript) :
    PhaseLogged config request (pre ++ ts ++ post) call after := by
  obtain ⟨before, behind, rfl, hcall, hlogs⟩ := h
  refine ⟨pre ++ before, behind ++ post, by simp only [List.append_assoc], ?_, ?_⟩
  · rw [Transcript.runnerCalls_append]
    exact List.mem_append_right _ hcall
  · rw [Transcript.logUploads_append]
    exact List.mem_append_left _ hlogs

/-- What a copy of the phase's logs makes of a file that the call wrote is stored. -/
theorem stored (h : PhaseLogged config request front call after) {file : Path}
    (hfile : call.Writes config file)
    (hcopy : ∃ c ∈ (Store.ofConfig config).buckets.logCopies (Store.ofConfig config).layout
      (phaseLogs config request call.options.mode call.parallel after), c.Stores file object) :
    Stored config front object := by
  obtain ⟨before, behind, hfront, hcall, hlogs⟩ := h
  obtain ⟨copy, hcopy, hobject⟩ := hcopy
  obtain ⟨command, hcommand, hmade⟩ := Buckets.exists_command hcopy
  exact ⟨before, behind, call, file, _, copy, command, hfront, hcall, hfile, hlogs, rfl, rfl, hcopy,
    hobject, hcommand, hmade⟩

/-- **Every file that a logged call wrote is stored**, under its own name. -/
theorem exists_stored (h : PhaseLogged config request front call after)
    (hbase : '%' ∉ config.layout.baseDir.text.toList)
    (htests : ∀ test ∈ call.options.tests, '/' ∉ test.toList) {file : Path}
    (hfile : call.Writes config file) : ∃ folder, Stored config front (folder ++ file.fileName) := by
  obtain ⟨object, copy, hcopy, hstores⟩ : ∃ object, ∃ c ∈ (Store.ofConfig config).buckets.logCopies
      (Store.ofConfig config).layout (phaseLogs config request call.options.mode call.parallel after),
      c.Stores file object := by
    cases hfile with
    | buildLog => exact ⟨_, Buckets.stores_buildLog rfl⟩
    | workerLog test hp ht => exact ⟨_, Buckets.stores_workerLog rfl hp (htests test ht)⟩
    | debugLog test mask testDirs jobs ht hmask =>
        rw [get?_pathMask] at hmask
        obtain rfl := Option.some.inj hmask
        rw [Layout.debugLog_of_mask hbase (htests test ht)]
        exact ⟨_, Buckets.stores_debugLog rfl (htests test ht)⟩
  refine ⟨copy.destination, ?_⟩
  rw [← hstores.2]
  exact h.stored hfile ⟨copy, hcopy, hstores⟩

/-- So is what the workers of a logged phase wrote. -/
theorem stored_of_worker {options : RunOptions} {package : String} {worker : Worker} {file : Path}
    (h : PhaseLogged config request front ⟨true, options⟩ after)
    (hbase : '%' ∉ config.layout.baseDir.text.toList)
    (htests : ∀ test ∈ options.tests, '/' ∉ test.toList)
    (hworker : (Runner.ofConfig config).worker? options (package, test) = some worker)
    (ht : test ∈ options.tests) (hfile : worker.Writes test file) :
    ∃ folder, Stored config front (folder ++ file.fileName) :=
  h.exists_stored hbase htests (writes_of_worker hworker ht hfile)

theorem buildLog (h : PhaseLogged config request front call after) {mode : TestMode}
    (hmode : call.options.mode = mode) :
    LinkTarget config front ((ReportContext.of config request.target).logUrl
      ("build-log/" ++ mode.lower ++ "_test.log")) := by
  subst hmode
  apply target_of_stored
  have hstored := h.stored .buildLog (Buckets.stores_buildLog rfl)
  simp only [String.append_assoc] at hstored ⊢
  exact hstored

theorem workerLog (h : PhaseLogged config request front call after) (hp : call.parallel = true)
    (ht : test ∈ call.options.tests) (htest : '/' ∉ test.toList) :
    LinkTarget config front ((ReportContext.of config request.target).logUrl
      ("build-log/" ++ call.options.mode.lower ++ "_build"
        ++ (if after then "_after_recording" else "") ++ "/" ++ test ++ "_"
        ++ call.options.mode.lower ++ "_test.log")) := by
  apply target_of_stored
  have hstored := h.stored (.workerLog test hp ht) (Buckets.stores_workerLog rfl hp htest)
  simp only [String.append_assoc] at hstored ⊢
  exact hstored

theorem debugLog (h : PhaseLogged config request front call after)
    (hbase : '%' ∉ config.layout.baseDir.text.toList) (ht : test ∈ call.options.tests)
    (htest : '/' ∉ test.toList) :
    LinkTarget config front ((ReportContext.of config request.target).logUrl
      (call.options.mode.lower ++ (if after then "_after_recording" else "") ++ "/" ++ test
        ++ ".log")) := by
  apply target_of_stored
  have hstored := h.stored (writes_debugLog hbase htest ht) (Buckets.stores_debugLog rfl htest)
  simp only [String.append_assoc] at hstored ⊢
  exact hstored

/-- All debug logs of a recording are in the directory that the report links to. -/
theorem debugLogs (h : PhaseLogged config request front call false)
    (hmode : call.options.mode = .recording) :
    LinkTarget config front
      ((ReportContext.of config request.target).browserUrl "recording") := by
  obtain ⟨before, behind, rfl, -, hlogs⟩ := h
  have hmem : phaseLogs config request call.options.mode call.parallel false
      ∈ (before ++ behind).logUploads := by
    rw [Transcript.logUploads_append]
    exact List.mem_append_right _ hlogs
  have hcopy : (⟨true, config.layout.debugLogDir call.options.mode config.version / "*",
      (Store.ofConfig config).buckets.reviewRoot config.version request.target.headRef
        config.build.buildId ++ call.options.mode.lower ++ "" ++ "/"⟩ : LogCopy)
      ∈ (Store.ofConfig config).buckets.logCopies (Store.ofConfig config).layout
        (phaseLogs config request call.options.mode call.parallel false) :=
    Buckets.debugCopy_mem rfl
  obtain ⟨command, hcommand, hmade⟩ := Buckets.exists_command hcopy
  unfold ReportContext.browserUrl
  rw [String.append_assoc, String.append_assoc]
  refine .browser _ hmem hmode hcopy hcommand hmade ?_ ?_
  · rw [hmode]
  · rw [reviewRoot_eq, hmode, String.append_empty]
    simp only [String.append_assoc]
    rfl

end PhaseLogged

/-! ## The phases of a run -/

/-- In this history these tests were run one by one with this outcome, and the phase was logged. -/
def TestsLogged (config : Config) (request : ChangeRequest) (front : Transcript) (mode : TestMode)
    (afterRecording : Bool) (tests : List String) (run : PhaseRun) : Prop :=
  ∃ options, options.mode = mode ∧ options.tests = tests ∧ (options, .ok run) ∈ front.singleCalls ∧
    PhaseLogged config request front ⟨true, options⟩ afterRecording

/-- The history may be longer. -/
theorem TestsLogged.extend {mode : TestMode} {after : Bool} {tests : List String} {run : PhaseRun}
    (h : TestsLogged config request ts mode after tests run) (pre post : Transcript) :
    TestsLogged config request (pre ++ ts ++ post) mode after tests run := by
  obtain ⟨options, hmode, htests, hmem, hlogged⟩ := h
  refine ⟨options, hmode, htests, ?_, hlogged.extend pre post⟩
  rw [Transcript.singleCalls_append, Transcript.singleCalls_append]
  exact List.mem_append_left _ (List.mem_append_right _ hmem)

/-- A phase of single tests is logged by its part of the history. -/
theorem testsLogged_parallelPart {mode : TestMode} {testDirs tests : List String} {after : Bool}
    (run : PhaseRun) (l : Except ServiceFault Unit) :
    TestsLogged config request
      (parallelPart (phaseOptions config mode dir testDirs tests) (.ok run)
        ++ logged (phaseLogs config request mode true after) l) mode after tests run := by
  refine ⟨phaseOptions config mode dir testDirs tests, rfl, rfl, ?_, ?_⟩
  · rw [Transcript.singleCalls_append]
    exact List.mem_append_left _ List.mem_cons_self
  · exact ⟨_, _, rfl, List.mem_cons_self, List.mem_cons_self⟩

/-- The phases that a state tells of are logged in the history, with the tests that they were asked for
    and what came of them. -/
structure Accounted (config : Config) (request : ChangeRequest) (front : Transcript) (s : RunState) :
    Prop where
  /-- The replay was carried out, in one call or more. -/
  replay : ∃ call, PhaseLogged config request front call false ∧ call.options.mode = .replaying
  /-- What failed in it failed in one of the calls. -/
  replayed : ∀ replay ∈ s.replay, ∀ name ∈ replay.result.failed,
    ∃ answered ∈ front.packageCalls, ∃ run ∈ answered.2.toOption, name ∈ run.result.failed
  /-- A recording was asked for what failed in the replay. -/
  record : ∀ record ∈ s.record, ∃ replay ∈ s.replay,
    TestsLogged config request front .recording false replay.result.failed.toList record
  /-- A replay of fresh cassettes was asked for what was recorded. -/
  confirm : ∀ confirm ∈ s.confirm, ∃ record ∈ s.record,
    TestsLogged config request front .replaying true record.result.passed.toList confirm

/-- The history may be longer. -/
theorem Accounted.extend {s : RunState} (h : Accounted config request ts s) (pre post : Transcript) :
    Accounted config request (pre ++ ts ++ post) s := by
  constructor
  case replay =>
      obtain ⟨call, hlogged, hmode⟩ := h.replay
      exact ⟨call, hlogged.extend pre post, hmode⟩
  case replayed =>
      intro replay hreplay name hname
      obtain ⟨answered, hmem, hrun⟩ := h.replayed replay hreplay name hname
      refine ⟨answered, ?_, hrun⟩
      rw [Transcript.packageCalls_append, Transcript.packageCalls_append]
      exact List.mem_append_left _ (List.mem_append_right _ hmem)
  case record =>
      intro record hrecord
      obtain ⟨replay, hreplay, hlogged⟩ := h.record record hrecord
      exact ⟨replay, hreplay, hlogged.extend pre post⟩
  case confirm =>
      intro confirm hconfirm
      obtain ⟨record, hrecord, hlogged⟩ := h.confirm confirm hconfirm
      exact ⟨record, hrecord, hlogged.extend pre post⟩

section Replay

variable {surface : ChangeSurface} {runs : List PhaseRun} {l : Except ServiceFault Unit}

/-- The replay of a surface is logged by its part of the history, as there is something to test. -/
theorem phaseLogged_replayPart (hs : surface.isEmpty = false)
    (hl : runs.length = (replayOptions config rules surface dir).length) :
    ∃ call, PhaseLogged config request (replayPart config rules request dir surface runs l) call false ∧
      call.options.mode = .replaying := by
  have hne : replayOptions config rules surface dir ≠ [] := replayOptions_ne_nil hs
  obtain ⟨o, rest, ho⟩ := List.exists_cons_of_ne_nil hne
  have hmem : o ∈ replayOptions config rules surface dir := by
    rw [ho]
    exact List.mem_cons_self
  have hmode : o.mode = .replaying := mode_of_mem_replayOptions hmem
  refine ⟨⟨false, o⟩, ⟨_, _, rfl, ?_, ?_⟩, hmode⟩
  · show ⟨false, o⟩ ∈ (ran (replayOptions config rules surface dir) runs).runnerCalls
    rw [runnerCalls_ran hl]
    exact List.mem_map_of_mem hmem
  · rw [hmode]
    exact List.mem_cons_self

/-- What failed in the merged replay failed in one of its calls. -/
theorem exists_of_mem_failed (hl : runs.length = (replayOptions config rules surface dir).length)
    {name : String} (h : name ∈ (mergedReplay surface runs).result.failed) :
    ∃ answered ∈ (replayPart config rules request dir surface runs l).packageCalls,
      ∃ run ∈ answered.2.toOption, name ∈ run.result.failed := by
  have hpart : ∃ run ∈ runs, name ∈ run.result.failed := by
    have hmade := mergedReplay_eq hl
    split at hmade
    · rw [hmade]
      exact ⟨_, List.mem_singleton_self _, h⟩
    · rw [hmade] at h
      exact PhaseRun.mem_failed_merge_iff.1 h
  obtain ⟨run, hrun, hname⟩ := hpart
  have hanswers : (replayPart config rules request dir surface runs l).packageCalls.map Prod.snd
      = runs.map .ok := by
    rw [← Transcript.packageCalls_testCalls, testCalls_replayPart]
    exact answers_packageCalls_ran hl
  have hmem : Except.ok run ∈ runs.map (Except.ok (ε := RunnerFault)) := List.mem_map_of_mem hrun
  rw [← hanswers] at hmem
  obtain ⟨answered, hanswered, hok⟩ := List.mem_map.1 hmem
  refine ⟨answered, hanswered, run, ?_, hname⟩
  rw [hok]
  rfl

/-- A replay that is carried out, and logged phases behind it, account for a state that tells of them. -/
theorem accounted_replayPart {state : RunState} (hs : surface.isEmpty = false)
    (hl : runs.length = (replayOptions config rules surface dir).length)
    (hreplay : state.replay = some (mergedReplay surface runs)) (more : Transcript)
    (hrecord : ∀ record ∈ state.record, TestsLogged config request more .recording false
      (mergedReplay surface runs).result.failed.toList record)
    (hconfirm : ∀ confirm ∈ state.confirm, ∃ record ∈ state.record,
      TestsLogged config request more .replaying true record.result.passed.toList confirm) :
    Accounted config request (replayPart config rules request dir surface runs l ++ more) state := by
  constructor
  case replay =>
      obtain ⟨call, hlogged, hmode⟩ := phaseLogged_replayPart hs hl
      exact ⟨call, hlogged.extend [] more, hmode⟩
  case replayed =>
      rw [hreplay]
      rintro _ ⟨⟩ name hname
      obtain ⟨answered, hmem, hrun⟩ := exists_of_mem_failed hl hname
      refine ⟨answered, ?_, hrun⟩
      rw [Transcript.packageCalls_append]
      exact List.mem_append_left _ hmem
  case record =>
      intro record hmem
      have hlogged := (hrecord record hmem).extend (replayPart config rules request dir surface runs l) []
      rw [List.append_nil] at hlogged
      exact ⟨_, hreplay, hlogged⟩
  case confirm =>
      intro confirm hmem
      obtain ⟨record, hrec, hlogged⟩ := hconfirm confirm hmem
      have hlogged := hlogged.extend (replayPart config rules request dir surface runs l) []
      rw [List.append_nil] at hlogged
      exact ⟨record, hrec, hlogged⟩

end Replay

/-- The phases behind a replay are logged. -/
theorem RecordWork.testsLogged {state state' : RunState} {failed : List String}
    (hconfirm : state.confirm = none)
    (h : RecordWork config request dir state failed ts (.ok state')) :
    (∀ record ∈ state'.record, TestsLogged config request ts .recording false failed record) ∧
    ∀ confirm ∈ state'.confirm, ∃ record ∈ state'.record,
      TestsLogged config request ts .replaying true record.result.passed.toList confirm := by
  have recorded (record : PhaseRun) (l : Except ServiceFault Unit) (more : Transcript) :
      ∀ r ∈ some record, TestsLogged config request
        (recordPart config request dir state failed record l ++ more) .recording false failed r := by
    rintro _ ⟨⟩
    exact (testsLogged_parallelPart record l).extend [] more
  have unconfirmed : ∀ confirm, confirm ∉ state.confirm := by
    rw [hconfirm]
    exact nofun
  cases h with
  | crashed record l hc => exact ⟨recorded record l _, fun confirm h => absurd h (unconfirmed confirm)⟩
  | nothing record l hc hp =>
      exact ⟨recorded record l _, fun confirm h => absurd h (unconfirmed confirm)⟩
  | confirming record l hc hp hw =>
      cases hw with
      | confirmed confirm l' =>
          refine ⟨recorded record l _, ?_⟩
          rintro _ ⟨⟩
          refine ⟨record, rfl, ?_⟩
          -- the phase is found between the upload of the cassettes and the warning of a crash
          let published : Transcript := [⟨publishRequest config request dir, .ok ()⟩,
            emitted (.cassettesUploaded request.target.headRef)]
          let phase : Transcript :=
            parallelPart (phaseOptions config .replaying dir state.testDirs record.result.passed.toList)
              (.ok confirm)
            ++ logged (phaseLogs config request .replaying true true) l'
          have hphase : TestsLogged config request phase .replaying true record.result.passed.toList
              confirm := testsLogged_parallelPart confirm l'
          have hparts : recordPart config request dir state failed record l
              ++ (published ++ phase ++ (confirmWarning confirm).map emitted)
              = (recordPart config request dir state failed record l ++ published) ++ phase
                ++ (confirmWarning confirm).map emitted := by
            simp only [List.append_assoc]
          show TestsLogged config request (recordPart config request dir state failed record l
            ++ (published ++ phase ++ (confirmWarning confirm).map emitted)) _ _ _ _
          rw [hparts]
          exact hphase.extend _ _

/-- **A returned state accounts for logged phases.** -/
theorem ReplayWork.accounted {surface : ChangeSurface} {state : RunState}
    (hs : surface.isEmpty = false)
    (h : ReplayWork config rules request dir surface ts (.ok state)) :
    Accounted config request ts state := by
  cases h with
  | crashed runs l hl hc => exact accounted_replayPart hs hl rfl _ nofun nofun
  | clean runs l hl hc hf =>
      rw [← List.append_nil (replayPart config rules request dir surface runs l)]
      exact accounted_replayPart hs hl rfl [] nofun nofun
  | recording runs l hl hc hf hw =>
      obtain ⟨hrecord, hconfirm⟩ := hw.testsLogged rfl
      exact accounted_replayPart hs hl hw.kept.2.2.1 _ hrecord hconfirm

/-! ## Links -/

/-- Tests are named like tests, and a phase of single tests only names tests that it was asked for. -/
structure WellNamed (t : Transcript) : Prop where
  /-- What fails in a package is named like a test. -/
  names : ∀ call ∈ t.packageCalls, ∀ run ∈ call.2.toOption, ∀ test ∈ run.result.failed,
    TestLog.IsTestName test
  /-- What is reported on was asked for. -/
  asked : ∀ call ∈ t.singleCalls, ∀ run ∈ call.2.toOption, ∀ test,
    test ∈ run.result.passed ∨ test ∈ run.result.failed → test ∈ call.1.tests

/-- The history up to some point is well named if all of it is. -/
theorem WellNamed.of_append {behind : Transcript} (h : WellNamed (front ++ behind)) :
    WellNamed front := by
  constructor
  case names =>
      intro call hcall
      apply h.names call
      rw [Transcript.packageCalls_append]
      exact List.mem_append_left _ hcall
  case asked =>
      intro call hcall
      apply h.asked call
      rw [Transcript.singleCalls_append]
      exact List.mem_append_left _ hcall

namespace TestsLogged

variable {mode : TestMode} {after : Bool} {tests : List String} {run : PhaseRun}

/-- The log of a test that is reported on, in a directory and with a tail that are spelled out. -/
theorem workerLink (h : TestsLogged config request front mode after tests run)
    (hfront : WellNamed front) (htests : ∀ test ∈ tests, NoSlash test) {folder tail : String}
    (hfolder : "build-log/" ++ mode.lower ++ "_build" ++ (if after then "_after_recording" else "")
      ++ "/" = folder)
    (htail : "_" ++ (mode.lower ++ "_test.log") = tail)
    (htest : test ∈ run.result.passed ∨ test ∈ run.result.failed) :
    LinkTarget config front ((ReportContext.of config request.target).logUrl
      (folder ++ test ++ tail)) := by
  obtain ⟨options, rfl, rfl, hrun, hlogged⟩ := h
  have hmem : test ∈ options.tests := hfront.asked _ hrun run rfl test htest
  have hlink := hlogged.workerLog rfl hmem (htests test hmem)
  rw [hfolder, String.append_assoc, String.append_assoc, htail] at hlink
  exact hlink

/-- The debug log of a test that is reported on, in a directory that is spelled out. -/
theorem debugLink (h : TestsLogged config request front mode after tests run)
    (hfront : WellNamed front) (hbase : '%' ∉ config.layout.baseDir.text.toList)
    (htests : ∀ test ∈ tests, NoSlash test) {folder : String}
    (hfolder : mode.lower ++ (if after then "_after_recording" else "") ++ "/" = folder)
    (htest : test ∈ run.result.passed ∨ test ∈ run.result.failed) :
    LinkTarget config front ((ReportContext.of config request.target).logUrl
      (folder ++ test ++ ".log")) := by
  obtain ⟨options, rfl, rfl, hrun, hlogged⟩ := h
  have hmem : test ∈ options.tests := hfront.asked _ hrun run rfl test htest
  have hlink := hlogged.debugLog hbase hmem (htests test hmem)
  rw [hfolder] at hlink
  exact hlink

theorem noSlash (h : TestsLogged config request front mode after tests run) (hfront : WellNamed front)
    (htests : ∀ test ∈ tests, NoSlash test)
    (htest : test ∈ run.result.passed ∨ test ∈ run.result.failed) : NoSlash test := by
  obtain ⟨options, -, rfl, hrun, -⟩ := h
  exact htests test (hfront.asked _ hrun run rfl test htest)

/-- The links to the logs of a recording. -/
theorem recordLinks (h : TestsLogged config request front .recording false tests run)
    (hfront : WellNamed front) (hbase : '%' ∉ config.layout.baseDir.text.toList)
    (htests : ∀ test ∈ tests, NoSlash test) :
    RecordLinks (LinkTarget config front) (.of config request.target) run where
  names test htest := h.noSlash hfront htests htest
  buildLog := by
    obtain ⟨options, hmode, -, -, hlogged⟩ := h
    exact hlogged.buildLog hmode
  workerLog test htest :=
    h.workerLink hfront htests (by decide +kernel) (by decide +kernel) (Or.inr htest)
  debugLog test htest := h.debugLink hfront hbase htests (by decide +kernel) htest
  debugLogs := by
    obtain ⟨options, hmode, -, -, hlogged⟩ := h
    exact hlogged.debugLogs hmode

/-- The links to the logs of a replay of fresh cassettes. -/
theorem confirmLinks (h : TestsLogged config request front .replaying true tests run)
    (hfront : WellNamed front) (hbase : '%' ∉ config.layout.baseDir.text.toList)
    (htests : ∀ test ∈ tests, NoSlash test) :
    ConfirmLinks (LinkTarget config front) (.of config request.target) run where
  names test htest := h.noSlash hfront htests (Or.inr htest)
  buildLog := by
    obtain ⟨options, hmode, -, -, hlogged⟩ := h
    exact hlogged.buildLog hmode
  workerLog test htest :=
    h.workerLink hfront htests (by decide +kernel) (by decide +kernel) (Or.inr htest)
  debugLog test htest :=
    h.debugLink hfront hbase htests (by decide +kernel) (Or.inr htest)

end TestsLogged

/-- **Every link of the report on a finished state has a target**, if the phases of the state are logged
    and its names have no slash. -/
theorem Accounted.linked {s : RunState} (h : Accounted config request front s) (hs : Finished s)
    (hfront : WellNamed front) (hbase : '%' ∉ config.layout.baseDir.text.toList)
    (hpackages : s.surface.fullSweep = false → ∀ name ∈ s.surface.packages, NoSlash name)
    (hadded : NoSlashes s.unexercised) :
    ∃ lines, lines? s (.of config request.target) = some lines ∧
      Linked (LinkTarget config front) lines := by
  have failed : ∀ replay, s.replay = some replay → ∀ test ∈ replay.result.failed, NoSlash test := by
    intro replay hreplay test htest
    obtain ⟨answered, hmem, run, hrun, hfailed⟩ := h.replayed replay hreplay test htest
    exact noSlash_of_isTestName (hfront.names answered hmem run hrun test hfailed)
  have replayLog : LinkTarget config front
      ((ReportContext.of config request.target).logUrl "build-log/replaying_test.log") := by
    obtain ⟨call, hlogged, hmode⟩ := h.replay
    exact hlogged.buildLog hmode
  have recorded : ∀ replay record, s.replay = some replay → s.record = some record →
      TestsLogged config request front .recording false replay.result.failed.toList record := by
    intro replay record hreplay hrecord
    obtain ⟨replay', hreplay', hlogged⟩ := h.record record hrecord
    obtain rfl : replay = replay' := Option.some.inj (hreplay.symm.trans hreplay')
    exact hlogged
  unfold lines?
  cases hs with
  | replayPanicked replay hr hc hrecord hconfirm ht =>
      rw [ht]
      exact ⟨_, rfl, linked_crash replayLog⟩
  | replayedClean replay hr hc hf hrecord hconfirm ht =>
      rw [ht]
      exact ⟨_, rfl, linked_sections_of_clean hpackages hadded hr hf replayLog⟩
  | recordPanicked replay record hr hc hf hrecord hcr hconfirm ht =>
      rw [ht]
      have hlinks := (recorded replay record hr hrecord).recordLinks hfront hbase (failed replay hr)
      exact ⟨_, rfl, linked_crash hlinks.buildLog⟩
  | unrecorded replay record hr hc hf hrecord hcr hp hconfirm ht =>
      rw [ht]
      have hlinks := (recorded replay record hr hrecord).recordLinks hfront hbase (failed replay hr)
      refine ⟨_, rfl, linked_sections_of_failed hpackages hadded hr hf (failed replay hr) .docs hrecord
        hlinks ?_⟩
      intro hsome
      exact absurd (hp.symm.trans hsome) nofun
  | confirmed replay record confirm hr hc hf hrecord hcr hp hconfirm ht =>
      rw [ht]
      have hlinks := (recorded replay record hr hrecord).recordLinks hfront hbase (failed replay hr)
      refine ⟨_, rfl, linked_sections_of_failed hpackages hadded hr hf (failed replay hr) .docs hrecord
        hlinks ?_⟩
      intro _
      obtain ⟨record', hrecord', hlogged⟩ := h.confirm confirm hconfirm
      obtain rfl : record = record' := Option.some.inj (hrecord.symm.trans hrecord')
      rw [hconfirm, Option.getD_some]
      exact hlogged.confirmLinks hfront hbase fun test htest => hlinks.names test (Or.inl htest)

/-- The names of added tests have no slash. -/
theorem ReplayWork.noSlashes_unexercised {surface : ChangeSurface} {state : RunState}
    (h : ReplayWork config rules request dir surface ts (.ok state)) :
    NoSlashes state.unexercised := by
  rcases h.unexercised_eq with ⟨-, hnone⟩ | ⟨-, hadded⟩
  · rw [hnone]
    exact ⟨nofun, nofun⟩
  · obtain ⟨runs, -, hreplay, -⟩ := h.testCalls_eq
    rw [hadded _ hreplay]
    exact noSlashes_of_diffs _ _ _

/-- A report is posted right behind the work that it is on. -/
theorem Course.exists_work {r : Except Failure Outcome} {text : String}
    (h : Course config rules request t r) (htext : text ∈ t.reports) :
    ∃ dir before ts a behind state,
      t = (before ++ ts) ++ ⟨.postReport request.target text, a⟩ :: behind ∧
      (rules.surface request.changedFiles).isEmpty = false ∧
      ReplayWork config rules request dir (rules.surface request.changedFiles) ts (.ok state) ∧
      report? state (.of config request.target) = some text := by
  cases h with
  | idle hs => simp at htext
  | unfetched hs e => simp [fetchRequest] at htext
  | abandoned hs dir a b hw => simp [fetchRequest, hw.quiet.reports_eq] at htext
  | @finished hs dir a b c ts state hw =>
      obtain ⟨posted, hposted⟩ := hw.finished.exists_report (.of config request.target)
      rw [conclusion_eq hposted] at htext ⊢
      obtain rfl : text = posted := by simpa [fetchRequest, hw.quiet.reports_eq] using htext
      let before : Transcript :=
        emitted (.surfaceComputed (rules.surface request.changedFiles).fullSweep
          (rules.surface request.changedFiles).packages.size)
        :: ⟨fetchRequest config request, .ok dir⟩ :: shown (statusPost config request .pending) a
      let behind : Transcript :=
        (aftermath [] "report post" b).map emitted
        ++ shown (statusPost config request (Verdict.of state).buildState) c
        ++ (closing state).map emitted
      refine ⟨dir, before, ts, b, behind, state, ?_, hs, hw, hposted⟩
      simp only [before, behind, commented, List.append_assoc, List.cons_append]

/-- **All links of a posted report have their targets**: at the time of the post, every log that the
    report links to has been copied to where the link points, from the file that the tests wrote. -/
theorem report_links_stored {r : Except Failure Outcome} {text : String}
    (h : Runs (presubmit config rules request) t r) (htext : text ∈ t.reports)
    (hnames : WellNamed t) (hbase : '%' ∉ config.layout.baseDir.text.toList) :
    ∃ front a behind, t = front ++ ⟨.postReport request.target text, a⟩ :: behind ∧
      LinksTo (LinkTarget config front) text := by
  obtain ⟨dir, before, ts, a, behind, state, rfl, hs, hw, hposted⟩ :=
    (course_presubmit h).exists_work htext
  refine ⟨before ++ ts, a, behind, rfl, ?_⟩
  -- what the work has logged is still there when the report is posted
  have hlogged : Accounted config request (before ++ ts) state := by
    have := (hw.accounted hs).extend before []
    rwa [List.append_nil] at this
  have hpackages : state.surface.fullSweep = false →
      ∀ name ∈ state.surface.packages, NoSlash name := by
    rw [hw.surface_eq.1]
    exact fun hsweep name hname => noSlash_of_mem_packages hsweep hname
  obtain ⟨lines, hlines, hlinked⟩ := hlogged.linked hw.finished hnames.of_append hbase hpackages
    hw.noSlashes_unexercised
  unfold report? at hposted
  rw [hlines] at hposted
  obtain rfl : Report.text lines = text := Option.some.inj hposted
  exact linksTo_text hlinked

/-- A test that is recorded, and then fails on its fresh cassettes: the report links to the logs of all
    three phases. -/
theorem report_links_stored_recorded :
    ∃ t o text front a behind, Runs (presubmit sampleConfig sampleRules sampleRequest) t (.ok o) ∧
      (∃ confirm ∈ o.state.confirm, confirm.result.failed.isEmpty = false) ∧
      text ∈ t.reports ∧ WellNamed t ∧
      t = front ++ ⟨.postReport sampleRequest.target text, a⟩ :: behind ∧
      LinksTo (LinkTarget sampleConfig front) text := by
  have h := runs_sampleRun [samplePhase .fail] [samplePhase .pass, samplePhase .fail] .willing
  obtain ⟨o, text, ho, htext, hconfirm⟩ : ∃ o text,
      (sampleRun [samplePhase .fail] [samplePhase .pass, samplePhase .fail] .willing).1 = .ok o ∧
      text ∈ (sampleRun [samplePhase .fail] [samplePhase .pass, samplePhase .fail]
        .willing).2.reports ∧
      ∃ confirm ∈ o.state.confirm, confirm.result.failed.isEmpty = false :=
    ⟨_, _, rfl, List.mem_cons_self, _, rfl, by decide⟩
  have hdisk : ∀ call ∈ (sampleRun [samplePhase .fail] [samplePhase .pass, samplePhase .fail]
      .willing).2.packageCalls, ∀ run ∈ call.2.toOption, ∀ test ∈ run.result.failed,
      test = "TestAccDisk" := by
    decide
  have hasked : ∀ call ∈ (sampleRun [samplePhase .fail] [samplePhase .pass, samplePhase .fail]
      .willing).2.singleCalls, ∀ run ∈ call.2.toOption,
      (∀ test ∈ run.result.passed, test ∈ call.1.tests) ∧
        ∀ test ∈ run.result.failed, test ∈ call.1.tests := by
    decide
  have hnames : WellNamed (sampleRun [samplePhase .fail] [samplePhase .pass, samplePhase .fail]
      .willing).2 := by
    constructor
    case names =>
        intro call hcall run hrun test htest
        rw [hdisk call hcall run hrun test htest]
        exact ⟨"Disk".toList, by decide, List.all_eq_true.1 (by decide)⟩
    case asked =>
        intro call hcall run hrun test htest
        exact htest.elim ((hasked call hcall run hrun).1 test) ((hasked call hcall run hrun).2 test)
  rw [ho] at h
  obtain ⟨front, a, behind, hcut, hlinks⟩ := report_links_stored h htext hnames (by decide)
  exact ⟨_, o, text, front, a, behind, h, hconfirm, htext, hnames, hcut, hlinks⟩

end Presubmit

end CassetteGate
