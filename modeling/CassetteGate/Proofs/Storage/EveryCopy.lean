import CassetteGate.Storage.Copies

/-!
# `Proofs.Storage.EveryCopy` — copies that fail, and the others

Files are brought here and published by one call of a program for each source, and any of the calls may
fail: the program cannot be started, or it reports that it did not succeed. Whatever becomes of one of
them, all of them are made, each once and in order (`yields_copyAll_iff`). If a failure ended the loop,
logs behind the one that failed would be lost, and an old layer of cassettes would win over newer ones.

Logs and cassettes differ in what is made of failures. Logs count as published if all of them are, and
else the first failure is reported, with the call that failed and what the program had to say
(`Reports`). Of cassettes, any layer may be missing, and so no failure is reported; but without a
directory to copy to no copy is made (`Fetches`).

## Contents
- **`Succeeded`**, **`Failed`**, `copy_eq`: one call.
- **`Attempt`**, **`yields_copyAll_iff`**: all calls.
- **`Reports`**, **`reports_firstFault`**: the failure that is reported.
- **`Fetches`**, **`triesAll`**: logs and cassettes.
-/

namespace CassetteGate

open Host

namespace Store

variable {s : Store} {args : List String} {answer : Except OsError CommandOutput}
  {exchanges : List (Exchange Request.Answer)} {fault : ServiceFault} {result : Except ServiceFault Unit}

/-! ## One call -/

/-- The command that makes a copy. -/
def call (s : Store) (args : List String) : Command :=
  { program := s.program, args, env := .empty, cwd := none, timeout := none }

/-- A call that did what it was to do. -/
def Succeeded (answer : Except OsError CommandOutput) : Prop :=
  ∃ output, answer = .ok output ∧ output.success = true

/-- A call that did not, and the fault that says so. -/
inductive Failed (s : Store) (args : List String) :
    Except OsError CommandOutput → ServiceFault → Prop where
  /-- The program could not be started. -/
  | unstarted (cause : OsError) :
      Failed s args (.error cause) (.commandFailed (s.call args).display cause.message)
  /-- The program did not succeed; it said on standard error why. -/
  | unsuccessful (output : CommandOutput) (h : output.success = false) :
      Failed s args (.ok output) (.commandFailed (s.call args).display (Text.trimmed output.stderr))

/-- What is made of the answer to a call. -/
def outcome (s : Store) (args : List String) :
    Except OsError CommandOutput → Except ServiceFault Unit
  | .error cause => .error (.commandFailed (s.call args).display cause.message)
  | .ok output =>
      if output.success then .ok ()
      else .error (.commandFailed (s.call args).display (Text.trimmed output.stderr))

theorem outcome_eq_ok_iff : s.outcome args answer = .ok () ↔ Succeeded answer := by
  constructor
  · intro h
    cases answer with
    | error cause => cases h
    | ok output =>
        cases hsuccess : output.success with
        | true => exact ⟨output, rfl, hsuccess⟩
        | false =>
            rw [outcome, hsuccess] at h
            cases h
  · rintro ⟨output, rfl, hsuccess⟩
    exact if_pos hsuccess

theorem outcome_eq_error_iff : s.outcome args answer = .error fault ↔ s.Failed args answer fault := by
  constructor
  · intro h
    cases answer with
    | error cause =>
        obtain rfl := Except.error.inj h
        exact .unstarted cause
    | ok output =>
        cases hsuccess : output.success with
        | true =>
            rw [outcome, hsuccess] at h
            cases h
        | false =>
            rw [outcome, hsuccess] at h
            obtain rfl := Except.error.inj h
            exact .unsuccessful output hsuccess
  · rintro (cause | ⟨output, hfailure⟩)
    · rfl
    · exact if_neg (Bool.eq_false_iff.1 hfailure)

/-- A copy is one call. -/
theorem copy_eq : s.copy args =
    .ask (.execute (s.call args)) fun answer => .done (s.outcome args answer) := by
  refine congrArg (Program.ask (Request.execute (s.call args))) (funext fun answer => ?_)
  cases answer with
  | error cause => rfl
  | ok output =>
      show (if output.success = true then Program.done _ else Program.done _) =
        Program.done (if output.success = true then _ else _)
      exact (apply_ite Program.done _ _ _).symm

/-! ## All of them -/

/-- A call and what became of it. -/
structure Attempt where
  /-- The arguments. -/
  args : List String
  /-- The answer. -/
  answer : Except OsError CommandOutput

variable {attempts : List Attempt} {commands : List (List String)}
  {results : List (Except ServiceFault Unit)}

/-- The calls that are made, one after the other. -/
def calls (s : Store) (attempts : List Attempt) : List (Exchange Request.Answer) :=
  attempts.map fun attempt => ⟨.execute (s.call attempt.args), attempt.answer⟩

/-- What is made of their answers. -/
def outcomes (s : Store) (attempts : List Attempt) : List (Except ServiceFault Unit) :=
  attempts.map fun attempt => s.outcome attempt.args attempt.answer

theorem copyAll_cons : s.copyAll (args :: commands) = .ask (.execute (s.call args)) fun answer =>
    s.copyAll commands >>= fun results => .done (s.outcome args answer :: results) := by
  rw [copyAll, copy_eq]
  rfl

/-- **All copies are tried, each once and in order**, whatever becomes of any of them. -/
theorem yields_copyAll_iff : Program.Yields (s.copyAll commands) exchanges results ↔
    ∃ attempts : List Attempt, attempts.map Attempt.args = commands ∧ exchanges = s.calls attempts ∧
      results = s.outcomes attempts := by
  induction commands generalizing exchanges results with
  | nil =>
      constructor
      · rintro ⟨⟩
        exact ⟨[], rfl, rfl, rfl⟩
      · rintro ⟨attempts, hargs, rfl, rfl⟩
        obtain rfl := List.map_eq_nil_iff.1 hargs
        exact .done _
  | cons args commands ih =>
      rw [copyAll_cons]
      constructor
      · rintro (_ | h)
        obtain ⟨before, made, behind, hcopied, hmade, rfl⟩ := Program.yields_bind_iff.1 h
        cases hmade
        obtain ⟨attempts, rfl, rfl, rfl⟩ := ih.1 hcopied
        exact ⟨⟨args, _⟩ :: attempts, rfl, congrArg (List.cons _) (List.append_nil _), rfl⟩
      · rintro ⟨attempts, hargs, rfl, rfl⟩
        obtain ⟨attempt, attempts, rfl, rfl, rfl⟩ := List.map_eq_cons_iff.1 hargs
        have hrest := ih.2 ⟨attempts, rfl, rfl, rfl⟩
        exact .ask (Program.yields_bind_iff.2 ⟨_, _, [], hrest, .done _, (List.append_nil _).symm⟩)

/-! ## The fault that is reported -/

/-- What is reported of some attempts: that they were successful, if all of them were, and else why the
    first one that was not failed. -/
structure Reports (s : Store) (attempts : List Attempt) (result : Except ServiceFault Unit) : Prop where
  /-- They were all successful. -/
  ok_iff : result = .ok () ↔ ∀ attempt ∈ attempts, Succeeded attempt.answer
  /-- The first one that was not failed for this reason. -/
  error_iff : ∀ fault, result = .error fault ↔
    ∃ before attempt behind, attempts = before ++ attempt :: behind ∧
      (∀ earlier ∈ before, Succeeded earlier.answer) ∧ s.Failed attempt.args attempt.answer fault

theorem firstFault_eq_ok_iff : firstFault results = .ok () ↔ ∀ result ∈ results, result = .ok () := by
  induction results with
  | nil => exact iff_of_true rfl (List.forall_mem_nil _)
  | cons result results ih =>
      rw [List.forall_mem_cons]
      cases result with
      | ok done => exact ih.trans (iff_and_self.2 fun _ => rfl)
      | error fault => exact iff_of_false nofun nofun

theorem firstFault_eq_error_iff : firstFault results = .error fault ↔
    ∃ before behind, results = before ++ .error fault :: behind ∧
      ∀ earlier ∈ before, earlier = .ok () := by
  induction results with
  | nil =>
      refine iff_of_false nofun ?_
      rintro ⟨before, behind, hsplit, -⟩
      exact List.append_ne_nil_of_right_ne_nil before (List.cons_ne_nil _ behind) hsplit.symm
  | cons result results ih =>
      cases result with
      | ok done =>
          refine ih.trans ⟨?_, ?_⟩
          · rintro ⟨before, behind, rfl, hbefore⟩
            exact ⟨.ok done :: before, behind, rfl, List.forall_mem_cons.2 ⟨rfl, hbefore⟩⟩
          · rintro ⟨before, behind, hsplit, hbefore⟩
            rcases List.cons_eq_append_iff.1 hsplit with ⟨rfl, hfirst⟩ | ⟨before, rfl, hrest⟩
            · cases hfirst
            · exact ⟨before, behind, hrest, (List.forall_mem_cons.1 hbefore).2⟩
      | error cause =>
          constructor
          · intro h
            obtain rfl := Except.error.inj h
            exact ⟨[], results, rfl, List.forall_mem_nil _⟩
          · rintro ⟨before, behind, hsplit, hbefore⟩
            rcases List.cons_eq_append_iff.1 hsplit with ⟨rfl, hfirst⟩ | ⟨before, rfl, -⟩
            · exact (List.cons.inj hfirst).1.symm
            · cases (List.forall_mem_cons.1 hbefore).1

/-- The first fault among the outcomes is what is to be reported. -/
theorem reports_firstFault (s : Store) (attempts : List Attempt) :
    s.Reports attempts (firstFault (s.outcomes attempts)) where
  ok_iff := by
    rw [firstFault_eq_ok_iff, outcomes, List.forall_mem_map]
    exact forall₂_congr fun attempt _ => outcome_eq_ok_iff
  error_iff := by
    intro fault
    rw [firstFault_eq_error_iff]
    constructor
    · rintro ⟨before, behind, hsplit, hbefore⟩
      obtain ⟨earlier, rest, rfl, rfl, hrest⟩ := List.map_eq_append_iff.1 hsplit
      obtain ⟨attempt, later, rfl, hattempt, -⟩ := List.map_eq_cons_iff.1 hrest
      refine ⟨earlier, attempt, later, rfl, ?_, outcome_eq_error_iff.1 hattempt⟩
      exact fun a ha => outcome_eq_ok_iff.1 (hbefore _ (List.mem_map_of_mem ha))
    · rintro ⟨before, attempt, behind, rfl, hbefore, hfailed⟩
      refine ⟨s.outcomes before, s.outcomes behind, ?_, ?_⟩
      · rw [outcomes, List.map_append, List.map_cons, outcome_eq_error_iff.2 hfailed]
        rfl
      · exact List.forall_mem_map.2 fun a ha => outcome_eq_ok_iff.2 (hbefore a ha)

/-- Nothing else can be reported of the same attempts. -/
theorem reports_iff : s.Reports attempts result ↔ result = firstFault (s.outcomes attempts) := by
  have hfirst := reports_firstFault s attempts
  constructor
  · intro h
    cases result with
    | ok done => exact (hfirst.ok_iff.2 (h.ok_iff.1 rfl)).symm
    | error fault => exact ((hfirst.error_iff fault).2 ((h.error_iff fault).1 rfl)).symm
  · rintro rfl
    exact hfirst

/-! ## Logs, and cassettes -/

variable {logs : LogUpload} {version : ProviderVersion} {baseBranch : String} {head : Option String}
  {fetched : Except ServiceFault Path}

/-- **Publishing logs tries every copy, and reports the first failure.** -/
theorem yields_uploadLogs_iff : Program.Yields (s.uploadLogs logs) exchanges result ↔
    ∃ attempts : List Attempt, attempts.map Attempt.args = s.buckets.logCommands s.layout logs ∧
      exchanges = s.calls attempts ∧ s.Reports attempts result := by
  simp only [reports_iff]
  unfold uploadLogs
  constructor
  · intro h
    obtain ⟨before, results, behind, hcopied, hdone, rfl⟩ := Program.yields_bind_iff.1 h
    cases hdone
    obtain ⟨attempts, hargs, rfl, rfl⟩ := yields_copyAll_iff.1 hcopied
    exact ⟨attempts, hargs, List.append_nil _, rfl⟩
  · rintro ⟨attempts, hargs, rfl, rfl⟩
    exact Program.yields_bind_iff.2 ⟨_, _, [], yields_copyAll_iff.2 ⟨attempts, hargs, rfl, rfl⟩,
      .done _, (List.append_nil _).symm⟩

/-- How a fetch goes: without a directory it does not begin, and else it tries every layer. -/
inductive Fetches (s : Store) (version : ProviderVersion) (baseBranch : String) (head : Option String) :
    List (Exchange Request.Answer) → Except ServiceFault Path → Prop where
  /-- There is no directory, and none can be made. -/
  | refused (cause : OsError) :
      Fetches s version baseBranch head
        [⟨.createDirectories (s.layout.cassetteDir version), .error cause⟩] (.error (.file cause))
  /-- Every layer is tried: it is copied from its source to the directory. The directory is returned. -/
  | tried (attempts : List Attempt)
      (hargs : attempts.map Attempt.args = (s.buckets.fetchSources version baseBranch head).map
        fun source => ["-m", "-q", "cp", source, (s.layout.cassetteDir version).text]) :
      Fetches s version baseBranch head
        (⟨.createDirectories (s.layout.cassetteDir version), .ok ()⟩ :: s.calls attempts)
        (.ok (s.layout.cassetteDir version))

theorem fetch_eq : s.fetch version baseBranch head =
    .ask (.createDirectories (s.layout.cassetteDir version)) fun answer =>
      match answer with
      | .error cause => .done (.error (.file cause))
      | .ok () => s.copyAll ((s.buckets.fetchSources version baseBranch head).map fun source =>
          ["-m", "-q", "cp", source, (s.layout.cassetteDir version).text]) >>= fun _ =>
            .done (.ok (s.layout.cassetteDir version)) := by
  refine congrArg (Program.ask (Request.createDirectories _)) (funext fun answer => ?_)
  cases answer <;> rfl

/-- **Fetching cassettes tries every layer, and does not mind failures.** -/
theorem yields_fetch_iff : Program.Yields (s.fetch version baseBranch head) exchanges fetched ↔
    s.Fetches version baseBranch head exchanges fetched := by
  rw [fetch_eq]
  constructor
  · rintro (_ | h)
    rename_i answer
    cases answer with
    | error cause =>
        cases h
        exact .refused cause
    | ok made =>
        obtain ⟨before, results, behind, hcopied, hdone, rfl⟩ := Program.yields_bind_iff.1 h
        cases hdone
        obtain ⟨attempts, hargs, rfl, -⟩ := yields_copyAll_iff.1 hcopied
        rw [List.append_nil]
        exact .tried attempts hargs
  · rintro (cause | ⟨attempts, hargs⟩)
    · exact .ask (.done _)
    · have hcopied := yields_copyAll_iff (s := s).2 ⟨attempts, hargs, rfl, rfl⟩
      exact .ask (Program.yields_bind_iff.2 ⟨_, _, [], hcopied, .done _, (List.append_nil _).symm⟩)

/-- What a store does about copies that fail. -/
structure TriesAll (s : Store) : Prop where
  /-- Logs: every command is run, once and in order, and the first failure is reported. -/
  uploadLogs : ∀ logs exchanges result, Program.Yields (s.uploadLogs logs) exchanges result ↔
    ∃ attempts : List Attempt, attempts.map Attempt.args = s.buckets.logCommands s.layout logs ∧
      exchanges = s.calls attempts ∧ s.Reports attempts result
  /-- Cassettes: every layer is tried, once and in order, and the directory is returned, unless there is
      none. -/
  fetch : ∀ version baseBranch head exchanges fetched,
    Program.Yields (s.fetch version baseBranch head) exchanges fetched ↔
      s.Fetches version baseBranch head exchanges fetched

/-- **A copy that fails does not stop the others.** Whatever the machine answers to any of the calls,
    publishing logs makes all of them, and so does a fetch as soon as it has a directory; the first
    reports whether all was well, and the other returns the directory in any case. -/
theorem triesAll (s : Store) : s.TriesAll where
  uploadLogs := fun _ _ _ => yields_uploadLogs_iff
  fetch := fun _ _ _ _ _ => yields_fetch_iff

/-- The store of a sample. -/
def sampleStore : Store := .ofConfig (.make .ga ⟨⟨"/work"⟩, ⟨"/work/provider"⟩⟩ .empty)

/-- The logs of the single tests of a change under review. -/
def sampleLogs : LogUpload := ⟨.recording, .ga, .review "auto-pr-7" "build-1", true, false⟩

/-- What the cloud answers if it denies a copy. -/
def denied : Except OsError CommandOutput :=
  .ok ⟨some 1, "", "AccessDeniedException: 403\n", 90, false⟩

/-- Copies of the sample logs: one that is made, one that is denied, and one that cannot be started. -/
def logAttempts : List Attempt :=
  [⟨["-h", "Content-Type:text/plain", "-q", "cp", "-r", "/work/testlogs/recording_test.log",
      "gs://ci-vcr-logs/ga/refs/heads/auto-pr-7/artifacts/build-1/build-log/"],
    .ok ⟨some 0, "", "", 120, false⟩⟩,
   ⟨["-h", "Content-Type:text/plain", "-m", "-q", "cp", "-r", "/work/testlogs/recording_build/*",
      "gs://ci-vcr-logs/ga/refs/heads/auto-pr-7/artifacts/build-1/build-log/recording_build/"],
    denied⟩,
   ⟨["-h", "Content-Type:text/plain", "-m", "-q", "cp", "-r", "/work/testlogs/recording/ga/*",
      "gs://ci-vcr-logs/ga/refs/heads/auto-pr-7/artifacts/build-1/recording/"],
    .error .notFound⟩]

/-- Copies of two layers of cassettes, neither of which is made. -/
def layerAttempts : List Attempt :=
  [⟨["-m", "-q", "cp", "gs://ci-vcr-cassettes/fixtures/*", "/work/cassettes/ga"], denied⟩,
   ⟨["-m", "-q", "cp", "gs://ci-vcr-cassettes/refs/heads/auto-pr-7/fixtures/*", "/work/cassettes/ga"],
    .error .notFound⟩]

/-- The command that is denied, as it is shown. -/
def deniedCommand : String :=
  "gsutil -h Content-Type:text/plain -m -q cp -r /work/testlogs/recording_build/* " ++
    "gs://ci-vcr-logs/ga/refs/heads/auto-pr-7/artifacts/build-1/build-log/recording_build/"

/-- Of the two copies of logs that fail, the first is reported, and all three are tried. A fetch with two
    layers, neither of which can be copied, returns its directory. -/
theorem triesAll_denied :
    Program.Yields (sampleStore.uploadLogs sampleLogs) (sampleStore.calls logAttempts)
      (.error (.commandFailed deniedCommand "AccessDeniedException: 403")) ∧
    Program.Yields (sampleStore.fetch .ga "main" (some "auto-pr-7"))
      (⟨.createDirectories ⟨"/work/cassettes/ga"⟩, .ok ()⟩ :: sampleStore.calls layerAttempts)
      (.ok ⟨"/work/cassettes/ga"⟩) := by
  obtain ⟨hlogs, hfetch⟩ := triesAll sampleStore
  constructor
  · have hargs : logAttempts.map Attempt.args =
        sampleStore.buckets.logCommands sampleStore.layout sampleLogs := by decide +kernel
    have hcommand : (sampleStore.call logAttempts[1].args).display = deniedCommand := by decide +kernel
    have hreason : Text.trimmed "AccessDeniedException: 403\n" = "AccessDeniedException: 403" := by
      decide +kernel
    rw [← hcommand, ← hreason]
    exact (hlogs _ _ _).2 ⟨logAttempts, hargs, rfl, reports_iff.2 rfl⟩
  · have hdir : sampleStore.layout.cassetteDir .ga = ⟨"/work/cassettes/ga"⟩ := by decide +kernel
    have hargs : layerAttempts.map Attempt.args =
        (sampleStore.buckets.fetchSources .ga "main" (some "auto-pr-7")).map fun source =>
          ["-m", "-q", "cp", source, (sampleStore.layout.cassetteDir .ga).text] := by decide +kernel
    have htried := (hfetch _ _ _ _ _).2 (.tried layerAttempts hargs)
    rwa [hdir] at htried

end Store

end CassetteGate
