import CassetteGate.Pipeline.Transcript
import CassetteGate.Runner.Phases
import CassetteGate.Storage.Copies

/-!
# `Proofs.Storage.LogFiles` — logs, from the test process to the bucket

A log is named three times before anybody reads it: by the runner or the provider, which writes the file;
by the store, which copies files or whole directories; and by the bucket, where each copied file keeps its
name. Here is what each of the three does with a name. The runner writes the build log of a mode and,
for single tests, a log of each; the provider writes a debug log of each test, to the file that the
setting `TF_LOG_PATH_MASK` says, with the test in the place of `%s` (`RunnerCall.Writes`). A copy stores a
file if it is a copy of that file or of all files in its directory, under the destination and the file's
own name (`LogCopy.Stores`). It is made by a command that names its source and its destination, in this
order, behind all options (`LogCopy.MadeBy`).

A copy stores a file of a directory under the name that was joined to the directory, as long as that name
has no slash in it. So the objects in the bucket are known once the copies of an upload are
(`stores_buildLog`, `stores_workerLog`, `stores_debugLog`).

## Contents
- **`Path.fileName`**, **`fileName_div`**: names of files.
- **`Text.fillIn`**, **`debugLog_of_mask`**: the debug log that a mask stands for.
- **`RunnerCall.Writes`**, **`Worker.Writes`**, **`writes_of_worker`**: what a call of the runner writes.
- **`LogCopy.Stores`**, and what an upload of logs stores.
- **`LogCopy.MadeBy`**, **`Buckets.exists_command`**: the commands that make the copies.
-/

namespace CassetteGate

/-! ## Names of files -/

namespace Path

/-- What follows the last slash. -/
def fileName (p : Path) : String :=
  String.ofList (p.text.toList.reverse.takeWhile (· ≠ '/')).reverse

/-- What is put in front of a relative part. -/
def lead (base : Path) : String :=
  if base.text.isEmpty || Text.endsWith base.text "/" then base.text else base.text ++ "/"

variable {base : Path} {part : String}

theorem startsWith_slash_eq_false (h : '/' ∉ part.toList) : Text.startsWith part "/" = false := by
  rw [Bool.eq_false_iff]
  intro hslash
  obtain ⟨rest, rfl⟩ := Text.startsWith_iff.1 hslash
  rw [String.toList_append] at h
  exact h (List.mem_append_left _ (by decide))

theorem div_eq_lead (h : '/' ∉ part.toList) : base / part = ⟨base.lead ++ part⟩ := by
  rw [div_eq_join]
  unfold join lead
  rw [startsWith_slash_eq_false h, if_neg Bool.false_ne_true]
  split <;> rfl

/-- A lead is empty, or ends with a slash. -/
theorem lead_cases (base : Path) : base.lead = "" ∨ ∃ start, base.lead = start ++ "/" := by
  unfold lead
  split
  case isTrue h =>
      rw [Bool.or_eq_true] at h
      rcases h with hnone | hslash
      · exact Or.inl (String.isEmpty_iff.1 hnone)
      · exact Or.inr (Text.endsWith_iff.1 hslash)
  case isFalse h => exact Or.inr ⟨base.text, rfl⟩

/-- The name of a joined file is the part that was joined. -/
theorem fileName_div (h : '/' ∉ part.toList) : (base / part).fileName = part := by
  have hname : ∀ c ∈ part.toList.reverse, decide (c ≠ '/') = true := by
    intro c hc
    exact decide_eq_true fun hslash => h (hslash ▸ List.mem_reverse.1 hc)
  rw [div_eq_lead h]
  unfold fileName
  rw [String.toList_append, List.reverse_append, List.takeWhile_append_of_pos hname]
  -- the lead begins, from behind, with a slash or not at all
  have hstop : base.lead.toList.reverse.takeWhile (· ≠ '/') = [] := by
    rcases base.lead_cases with hnone | ⟨start, hslash⟩
    · rw [hnone]
      rfl
    · rw [hslash, String.toList_append, List.reverse_append]
      rfl
  rw [hstop, List.append_nil, List.reverse_reverse, String.ofList_toList]

/-- A character that is in a joined path is in one of its parts, or it is the slash between them. -/
theorem mem_lead {c : Char} (h : c ∈ base.lead.toList) : c ∈ base.text.toList ∨ c = '/' := by
  unfold lead at h
  split at h
  · exact Or.inl h
  · rw [String.toList_append, List.mem_append] at h
    exact h.imp_right fun hslash => by simpa using hslash

end Path

/-! ## Debug logs -/

/-- A pattern with a name in the place of each `%s`. -/
def Text.fillInList (name : List Char) : List Char → List Char
  | [] => []
  | '%' :: 's' :: cs => name ++ fillInList name cs
  | c :: cs => c :: fillInList name cs

/-- The same on strings. -/
def Text.fillIn (pattern name : String) : String :=
  String.ofList (Text.fillInList name.toList pattern.toList)

namespace Text

variable {name front : List Char}

/-- What holds no percent sign is left as it is. -/
theorem fillInList_append (h : '%' ∉ front) (cs : List Char) :
    fillInList name (front ++ cs) = front ++ fillInList name cs := by
  induction front with
  | nil => rfl
  | cons c front ih =>
      obtain ⟨hc, hfront⟩ := not_or.1 (mt List.mem_cons.2 h)
      have hplain : fillInList name (c :: (front ++ cs)) = c :: fillInList name (front ++ cs) := by
        rw [fillInList]
        intro rest hpercent _
        exact hc hpercent.symm
      rw [List.cons_append, hplain, ih hfront, List.cons_append]

theorem fillIn_mask {lead test : String} (h : '%' ∉ lead.toList) :
    fillIn (lead ++ "%s.log") test = lead ++ (test ++ ".log") := by
  have hmask : "%s.log".toList = '%' :: 's' :: ".log".toList := rfl
  have hending : fillInList test.toList ".log".toList = ".log".toList := rfl
  unfold fillIn
  rw [String.toList_append, fillInList_append h, hmask, fillInList, hending, ← String.toList_inj]
  rw [String.toList_ofList, String.toList_append, String.toList_append]

end Text

namespace Layout

variable {layout : Layout} {mode : TestMode} {version : ProviderVersion} {test : String}

/-- The directory of the debug logs holds a percent sign only if the base directory does. -/
theorem percent_notMem_debugLogDir (h : '%' ∉ layout.baseDir.text.toList) :
    '%' ∉ (layout.debugLogDir mode version).lead.toList := by
  -- each name that leads there is a fixed one without percent signs and slashes
  have hstep : ∀ {base : Path} {part : String}, '%' ∉ base.text.toList →
      '%' ∉ part.toList ∧ '/' ∉ part.toList → '%' ∉ (base / part).text.toList := by
    intro base part hbase hpart hmem
    rw [Path.div_eq_lead hpart.2, String.toList_append, List.mem_append] at hmem
    rcases hmem with hlead | hname
    · exact (Path.mem_lead hlead).elim hbase (by decide)
    · exact hpart.1 hname
  have hmode : '%' ∉ mode.lower.toList ∧ '/' ∉ mode.lower.toList := by
    cases mode <;> decide
  have hversion : '%' ∉ version.name.toList ∧ '/' ∉ version.name.toList := by
    cases version <;> decide
  have hdir : '%' ∉ (layout.debugLogDir mode version).text.toList :=
    hstep (hstep (hstep h (by decide)) hmode) hversion
  intro hmem
  exact (Path.mem_lead hmem).elim hdir (by decide)

/-- **The file that the mask stands for** lies in the directory of the debug logs. -/
theorem debugLog_of_mask (h : '%' ∉ layout.baseDir.text.toList) (htest : '/' ∉ test.toList) :
    (⟨Text.fillIn (layout.debugLogMask mode version).text test⟩ : Path)
      = layout.debugLogDir mode version / (test ++ ".log") := by
  have hname : '/' ∉ (test ++ ".log").toList := by
    rw [String.toList_append, List.mem_append, not_or]
    exact ⟨htest, by decide⟩
  unfold debugLogMask
  rw [Path.div_eq_lead (by decide), Path.div_eq_lead hname]
  rw [Text.fillIn_mask (percent_notMem_debugLogDir h)]

end Layout

/-! ## What the runner writes -/

/-- The files that a call of the runner writes, or has written by the provider. -/
inductive RunnerCall.Writes (config : Config) (call : RunnerCall) : Path → Prop where
  /-- The output of its processes. -/
  | buildLog : Writes config call (config.layout.buildLog call.options.mode)
  /-- The output of a single test. -/
  | workerLog (test : String) (hp : call.parallel = true) (ht : test ∈ call.options.tests) :
      Writes config call (config.layout.workerLog call.options.mode test)
  /-- What the provider logs in a single test, where the settings of its process say. -/
  | debugLog (test mask : String) (testDirs : List String) (jobs : UInt64)
      (ht : test ∈ call.options.tests)
      (hmask : (testVariables config call.options.mode call.options.cassetteDir testDirs jobs).get?
        "TF_LOG_PATH_MASK" = some mask) :
      Writes config call ⟨Text.fillIn mask test⟩

section Writes

variable {config : Config} {call : RunnerCall} {test : String}

theorem get?_pathMask (mode : TestMode) (dir : Path) (testDirs : List String) (jobs : UInt64) :
    (testVariables config mode dir testDirs jobs).get? "TF_LOG_PATH_MASK"
      = some (config.layout.debugLogMask mode config.version).text := by
  unfold testVariables
  rw [Variables.get?_setAll]
  rfl

theorem writes_debugLog (hbase : '%' ∉ config.layout.baseDir.text.toList) (htest : '/' ∉ test.toList)
    (ht : test ∈ call.options.tests) :
    call.Writes config (config.layout.debugLogDir call.options.mode config.version
      / (test ++ ".log")) := by
  rw [← Layout.debugLog_of_mask hbase htest]
  exact .debugLog test _ [] 1 ht (get?_pathMask _ _ _ _)

/-- The files that a worker for a test writes, or has written by the provider. -/
inductive Worker.Writes (worker : Worker) (test : String) : Path → Prop where
  /-- The output of its process. -/
  | log : Writes worker test worker.log
  /-- What the provider logs, where the settings of the process say. -/
  | debugLog (mask : String) (hmask : worker.command.env.get? "TF_LOG_PATH_MASK" = some mask) :
      Writes worker test ⟨Text.fillIn mask test⟩

/-- **What a worker writes is written by the call that it is started for.** -/
theorem writes_of_worker {options : RunOptions} {package : String} {worker : Worker} {file : Path}
    (hworker : (Runner.ofConfig config).worker? options (package, test) = some worker)
    (ht : test ∈ options.tests) (hfile : worker.Writes test file) :
    RunnerCall.Writes config ⟨true, options⟩ file := by
  unfold Runner.worker? singleTestRun? at hworker
  rw [Option.map_map, Option.map_eq_some_iff] at hworker
  obtain ⟨deadline, -, rfl⟩ := hworker
  cases hfile with
  | log => exact .workerLog test rfl ht
  | debugLog mask hmask => exact .debugLog test mask [package] 1 ht hmask

end Writes

/-! ## What a copy stores -/

/-- The copy stores a local file under the name of an object: the file is what is copied, or one of all
    files of a directory, and it keeps its own name. -/
def LogCopy.Stores (c : LogCopy) (file : Path) (object : String) : Prop :=
  (c.source = file ∨
    ∃ (dir : Path) (name : String), c.source = dir / "*" ∧ file = dir / name ∧
      '/' ∉ name.toList) ∧
  object = c.destination ++ file.fileName

/-- The command makes the copy: behind its options, it says what is copied and where to. -/
def LogCopy.MadeBy (c : LogCopy) (command : List String) : Prop :=
  ∃ options, command = options ++ ["cp", "-r", c.source.text, c.destination]

namespace Buckets

variable {b : Buckets} {layout : Layout} {u : LogUpload} {head buildId test : String}

/-- **Each copy of an upload is made by one of its commands.** -/
theorem exists_command {c : LogCopy} (hc : c ∈ b.logCopies layout u) :
    ∃ command ∈ b.logCommands layout u, c.MadeBy command := by
  refine ⟨c.args, List.mem_map_of_mem hc, ?_⟩
  refine ⟨["-h", "Content-Type:text/plain"] ++ (if c.concurrent then ["-m"] else []) ++ ["-q"], ?_⟩
  unfold LogCopy.args
  rw [List.append_assoc _ ["-q"]]
  rfl

theorem slash_notMem_lower (mode : TestMode) : '/' ∉ mode.lower.toList := by
  cases mode <;> decide

/-- An upload of a review copies the build log. -/
theorem stores_buildLog (hu : u.destination = .review head buildId) :
    ∃ c ∈ b.logCopies layout u, c.Stores (layout.buildLog u.mode)
      (b.reviewRoot u.version head buildId ++ "build-log/" ++ (u.mode.lower ++ "_test.log")) := by
  have hname : '/' ∉ (u.mode.lower ++ "_test.log").toList := by
    rw [String.toList_append, List.mem_append, not_or]
    exact ⟨slash_notMem_lower _, by decide⟩
  refine ⟨⟨false, layout.buildLog u.mode, b.reviewRoot u.version head buildId ++ "build-log/"⟩, ?_,
    Or.inl rfl, ?_⟩
  · unfold logCopies
    rw [hu]
    exact List.mem_append_left _ (List.mem_append_left _ List.mem_cons_self)
  · unfold Layout.buildLog
    rw [Path.fileName_div hname]

/-- If the phase ran single tests, it copies the logs of their processes. -/
theorem stores_workerLog (hu : u.destination = .review head buildId) (hp : u.parallel = true)
    (htest : '/' ∉ test.toList) :
    ∃ c ∈ b.logCopies layout u, c.Stores (layout.workerLog u.mode test)
      (b.reviewRoot u.version head buildId ++ "build-log/" ++ u.mode.lower ++ "_build" ++ u.suffix
        ++ "/" ++ (test ++ "_" ++ u.mode.lower ++ "_test.log")) := by
  have hname : '/' ∉ (test ++ "_" ++ u.mode.lower ++ "_test.log").toList := by
    simp only [String.toList_append, List.mem_append, not_or]
    exact ⟨⟨⟨htest, by decide⟩, slash_notMem_lower _⟩, by decide⟩
  refine ⟨⟨true, layout.workerLogDir u.mode / "*", b.reviewRoot u.version head buildId
    ++ "build-log/" ++ u.mode.lower ++ "_build" ++ u.suffix ++ "/"⟩, ?_,
    Or.inr ⟨_, _, rfl, rfl, hname⟩, ?_⟩
  · unfold logCopies
    rw [hu]
    simp only [if_pos hp, String.append_assoc]
    exact List.mem_append_left _ (List.mem_append_right _ List.mem_cons_self)
  · unfold Layout.workerLog
    rw [Path.fileName_div hname]

/-- It copies the debug logs of the phase. -/
theorem debugCopy_mem (hu : u.destination = .review head buildId) :
    (⟨true, layout.debugLogDir u.mode u.version / "*",
      b.reviewRoot u.version head buildId ++ u.mode.lower ++ u.suffix ++ "/"⟩ : LogCopy)
      ∈ b.logCopies layout u := by
  unfold logCopies
  rw [hu]
  exact List.mem_append_right _ List.mem_cons_self

theorem stores_debugLog (hu : u.destination = .review head buildId) (htest : '/' ∉ test.toList) :
    ∃ c ∈ b.logCopies layout u, c.Stores (layout.debugLogDir u.mode u.version / (test ++ ".log"))
      (b.reviewRoot u.version head buildId ++ u.mode.lower ++ u.suffix ++ "/"
        ++ (test ++ ".log")) := by
  have hname : '/' ∉ (test ++ ".log").toList := by
    rw [String.toList_append, List.mem_append, not_or]
    exact ⟨htest, by decide⟩
  refine ⟨_, debugCopy_mem hu, Or.inr ⟨_, _, rfl, rfl, hname⟩, ?_⟩
  rw [Path.fileName_div hname]

end Buckets

end CassetteGate
