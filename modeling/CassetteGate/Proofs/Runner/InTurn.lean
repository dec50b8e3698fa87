import CassetteGate.Proofs.Runner.Runs
import Mathlib.Data.List.Basic

/-!
# `Proofs.Runner.InTurn` — single tests beside each other, and in turn

The workers of a phase run beside each other and finish in any order, and what is returned and logged
depends on order: panics are listed, the first exit error is kept, outputs are joined. That the order
in which workers finish leaves no trace is shown by comparing the phase with one that has no workers at
all: `runTestsInTurn` goes through the packages, and for each through the tests, runs one process at a
time and takes in what it made before it starts the next.

Every run of the phase with workers has a counterpart in that program (`runTests_inTurn`). The two have
the same exchanges with the machine, but that in place of the workers each process is run and logged in
turn, and they end in the same result. Three things make this so: sorting by index restores the order
in which workers were given, since each index occurs once (`inOrder_eq`); putting all outputs together
at the end is the same as taking in one at a time (`foldl_take_eq`); and the workers are given in the
order of the two loops (`foldlM_pairs`).

## Contents
- **`Runner.Tally`**, **`Runner.runOne`**, **`Runner.runTestsInTurn`**: one process at a time.
- **`Runner.Ran`**, **`Runner.inTurn`**: workers that all did their work, and their counterpart.
- **`Runner.PhaseCourse`**: the ways that a phase can go.
- **`Runner.runTests_inTurn`**: the comparison.
-/

namespace CassetteGate.Runner

open Host

variable {r : Runner} {options : RunOptions} {outputs : List CommandOutput} {workers : List Worker}
  {packages : List String} {exchanges : List HostExchange} {result : Except RunnerFault PhaseRun}

/-! ## One process at a time -/

/-- What a phase has made so far. -/
structure Tally where
  /-- Its outcome. -/
  phase : PhaseRun
  /-- The log that is kept of it. -/
  log : String

/-- Nothing yet. -/
def Tally.nothing : Tally := ⟨.empty, ""⟩

/-- Takes in one more process. -/
def Tally.take (made : Tally) (output : CommandOutput) : Tally :=
  ⟨made.phase.absorb (.ofOutput output), made.log ++ output.combined⟩

/-- Runs a worker's process, keeps its log and takes in what it made. There is no worker if the
    deadline of the process cannot be expressed. -/
def runNext (made : Tally) : Option Worker → RunnerProgram Tally
  | none => throw .deadlineOverflow
  | some worker => do
      let output ← execute worker.command
      onFiles (Host.appendLog worker.log output.combined)
      return made.take output

/-- Runs one test in one package. -/
def runOne (r : Runner) (options : RunOptions) (made : Tally) (pair : String × String) :
    RunnerProgram Tally :=
  runNext made (r.worker? options pair)

/-- Prepares a phase of single-test processes, and returns the packages that it tests. -/
def openPhase (r : Runner) (options : RunOptions) : RunnerProgram (List String) := do
  let packages ← r.prepare options
  onFiles (Host.ask (.createDirectories (r.config.layout.workerLogDir options.mode)))
  return packages

/-- Keeps the log of a phase of single-test processes, and returns its outcome. -/
def closePhase (r : Runner) (options : RunOptions) (made : Tally) : RunnerProgram PhaseRun := do
  onFiles (Host.ask (.writeFile (r.config.layout.buildLog options.mode) made.log))
  return made.phase

/-- Runs each test of a phase in each of its packages, package by package, and each process only when
    the one before it is done. -/
def runTestsInTurn (r : Runner) (options : RunOptions) : RunnerProgram PhaseRun := do
  let packages ← r.openPhase options
  let made ← packages.foldlM
    (fun made package =>
      options.tests.foldlM (fun made test => r.runOne options made (package, test)) made)
    Tally.nothing
  r.closePhase options made

/-! ## Workers, and their counterpart -/

/-- The workers that made `outputs`, in the order in which they were given. -/
def numbered (outputs : List CommandOutput) : List Finished :=
  outputs.zipIdx.map fun (output, index) => ⟨index, output⟩

/-- Workers that all did their work, the first with the first of `outputs` and so forth. They may have
    finished in any order. -/
def Ran (outputs : List CommandOutput) : HostExchange → Prop
  | ⟨.runWorkers _ workers, answer⟩ =>
      outputs.length = workers.length ∧
        ∃ finished, answer = .ok finished ∧ finished.Perm (numbered outputs)
  | _ => True

/-- A text that is added to a file, whose directory is made before. -/
def appended (file : Path) (text : String) : List HostExchange :=
  (file.parent?.toList.map fun dir => ⟨.createDirectories dir, .ok ()⟩) ++
    [⟨.appendFile file text, .ok ()⟩]

/-- One process that is run and logged by itself. -/
def turn (worker : Worker) (output : CommandOutput) : List HostExchange :=
  ⟨.execute worker.command, .ok output⟩ :: appended worker.log output.combined

/-- Workers in turn. -/
def turns (workers : List Worker) (outputs : List CommandOutput) : List HostExchange :=
  (workers.zip outputs).flatMap fun (worker, output) => turn worker output

theorem turns_cons {worker : Worker} {output : CommandOutput} :
    turns (worker :: workers) (output :: outputs) = turn worker output ++ turns workers outputs :=
  List.flatMap_cons

/-- The exchanges of a phase with its workers in turn; all else stays. -/
def inTurn (outputs : List CommandOutput) (exchanges : List HostExchange) : List HostExchange :=
  exchanges.flatMap fun e =>
    match e with
    | ⟨.runWorkers _ workers, _⟩ => turns workers outputs
    | e => [e]

/-- The workers that were started, one list for each time that any were. -/
def starts (exchanges : List HostExchange) : List (List Worker) :=
  exchanges.filterMap fun e =>
    match e with
    | ⟨.runWorkers _ workers, _⟩ => some workers
    | _ => none

theorem inTurn_append (before behind : List HostExchange) :
    inTurn outputs (before ++ behind) = inTurn outputs before ++ inTurn outputs behind :=
  List.flatMap_append

theorem starts_append (before behind : List HostExchange) :
    starts (before ++ behind) = starts before ++ starts behind :=
  List.filterMap_append

theorem inTurn_of_quiet (h : ∀ e ∈ exchanges, e.request.startsWorkers = false) :
    inTurn outputs exchanges = exchanges := by
  induction exchanges with
  | nil => rfl
  | cons e exchanges ih =>
      obtain ⟨he, hrest⟩ := List.forall_mem_cons.1 h
      obtain ⟨q, answer⟩ := e
      have hsame : inTurn outputs [⟨q, answer⟩] = [⟨q, answer⟩] := by
        cases q with
        | runWorkers jobs workers => cases he
        | _ => rfl
      rw [← List.singleton_append, inTurn_append, hsame, ih hrest]

theorem inTurn_workers {jobs : UInt64} {answer : Except WorkerFault (List Finished)} :
    inTurn outputs [⟨.runWorkers jobs workers, answer⟩] = turns workers outputs :=
  List.append_nil _

theorem starts_of_quiet (h : ∀ e ∈ exchanges, e.request.startsWorkers = false) :
    starts exchanges = [] := by
  refine List.filterMap_eq_nil_iff.2 fun e he => ?_
  obtain ⟨q, answer⟩ := e
  have hq := h _ he
  cases q with
  | runWorkers jobs workers => cases hq
  | _ => rfl

/-! ## Order -/

theorem mem_numbered_iff {f : Finished} :
    f ∈ numbered outputs ↔ outputs[f.index]? = some f.output := by
  unfold numbered
  rw [List.mem_map]
  constructor
  · rintro ⟨⟨output, index⟩, hmem, rfl⟩
    exact List.mem_zipIdx_iff_getElem?.1 hmem
  · intro h
    exact ⟨(f.output, f.index), List.mem_zipIdx_iff_getElem?.2 h, rfl⟩

theorem pairwise_numbered : (numbered outputs).Pairwise fun a b => a.index ≤ b.index := by
  have hindices : (numbered outputs).map Finished.index = List.range' 0 outputs.length := by
    unfold numbered
    rw [List.map_map]
    exact List.zipIdx_map_snd 0 outputs
  have hascending : ((numbered outputs).map Finished.index).Pairwise (· ≤ ·) := by
    rw [hindices]
    exact List.pairwise_le_range'
  exact List.pairwise_map.1 hascending

theorem pairwise_mergeSort_index (finished : List Finished) :
    (finished.mergeSort fun a b => a.index ≤ b.index).Pairwise fun a b => a.index ≤ b.index := by
  have hsorted := @List.pairwise_mergeSort Finished (fun a b => decide (a.index ≤ b.index))
    (fun a b c hab hbc =>
      decide_eq_true (Nat.le_trans (of_decide_eq_true hab) (of_decide_eq_true hbc)))
    (fun a b => by
      rw [Bool.or_eq_true, decide_eq_true_eq, decide_eq_true_eq]
      exact Nat.le_total a.index b.index)
    finished
  exact hsorted.imp of_decide_eq_true

/-- **Sorting by index restores the order in which workers were given.** -/
theorem inOrder_eq {finished : List Finished} (h : finished.Perm (numbered outputs)) :
    inOrder finished = outputs := by
  have hperm : (finished.mergeSort fun a b => a.index ≤ b.index).Perm (numbered outputs) :=
    (List.mergeSort_perm finished _).trans h
  have hsame : (finished.mergeSort fun a b => a.index ≤ b.index) = numbered outputs := by
    refine hperm.eq_of_pairwise ?_ (pairwise_mergeSort_index finished) pairwise_numbered
    intro a b ha hb hab hba
    -- no index occurs twice, so two that could stand either way round are one
    have hindex : a.index = b.index := Nat.le_antisymm hab hba
    have houtput : some a.output = some b.output := by
      rw [← mem_numbered_iff.1 (hperm.mem_iff.1 ha), ← mem_numbered_iff.1 hb, hindex]
    cases a
    cases b
    exact congrArg₂ Finished.mk hindex (Option.some.inj houtput)
  unfold inOrder
  rw [hsame]
  unfold numbered
  rw [List.map_map]
  exact List.zipIdx_map_fst 0 outputs

theorem foldl_take {made : Tally} :
    outputs.foldl Tally.take made =
      ⟨(outputs.map PhaseRun.ofOutput).foldl PhaseRun.absorb made.phase,
        (outputs.map CommandOutput.combined).foldl (· ++ ·) made.log⟩ := by
  induction outputs generalizing made with
  | nil => rfl
  | cons output outputs ih =>
      rw [List.foldl_cons, ih, List.map_cons, List.map_cons, List.foldl_cons, List.foldl_cons,
        Tally.take]

/-- Outputs that are taken in one at a time make what they make together. -/
theorem foldl_take_eq :
    outputs.foldl Tally.take .nothing = ⟨phaseOf outputs, combinedLog outputs⟩ :=
  foldl_take

/-- The workers are given in the order of the two loops. -/
theorem foldlM_pairs {tests : List String} {made : Tally}
    (f : Tally → String × String → RunnerProgram Tally) :
    packages.foldlM (fun made package => tests.foldlM (fun made test => f made (package, test)) made)
      made = (pairs packages tests).foldlM f made := by
  induction packages generalizing made with
  | nil => rfl
  | cons package packages ih =>
      unfold pairs at ih ⊢
      rw [List.flatMap_cons, List.foldlM_append, List.foldlM_map, List.foldlM_cons]
      exact bind_congr fun made => ih

/-! ## The ways that a phase can go -/

theorem plain_openPhase {wanted : Prop} : Plain wanted (r.openPhase options) :=
  (plain_prepare r options).bind fun packages =>
    (plain_createDirectories _).bind fun _ => plain_pure packages

theorem plain_closePhase {wanted : Prop} {made : Tally} : Plain wanted (r.closePhase options made) :=
  (plain_writeFile _ made.log).bind fun _ => plain_pure made.phase

theorem quiet_openPhase {opened : Except RunnerFault (List String)}
    (h : Program.Yields (r.openPhase options).run exchanges opened) :
    ∀ e ∈ exchanges, e.request.startsWorkers = false := by
  have hplain : Plain True (r.openPhase options) := plain_openPhase
  exact (hplain _ _ h).1

theorem quiet_closePhase {made : Tally}
    (h : Program.Yields (r.closePhase options made).run exchanges result) :
    ∀ e ∈ exchanges, e.request.startsWorkers = false := by
  have hplain : Plain True (r.closePhase options made) := plain_closePhase
  exact (hplain _ _ h).1

theorem tests_of_openPhase
    (h : Program.Yields (r.openPhase options).run exchanges (.ok packages)) :
    r.Tests options exchanges packages := by
  rcases Program.yields_run_bind_iff.1 h with
    ⟨before, prepared, behind, hprepared, hrest, rfl⟩ | ⟨fault, -, hfault⟩
  · obtain rfl : packages = prepared :=
      returns_bind (fun _ => returns_pure prepared) _ _ hrest
    exact (tests_of_prepare hprepared).mono fun e he => List.mem_append_left behind he
  · cases hfault

/-- How a phase of single-test processes goes: it cannot be prepared, its processes have no deadline,
    or its workers are started. -/
inductive PhaseCourse (r : Runner) (options : RunOptions) :
    List HostExchange → Except RunnerFault PhaseRun → Prop where
  /-- Something was refused before. -/
  | unprepared {exchanges : List HostExchange} {fault : RunnerFault}
      (hopen : Program.Yields (r.openPhase options).run exchanges (.error fault)) :
      PhaseCourse r options exchanges (.error fault)
  /-- The deadline of the processes cannot be expressed. -/
  | endless {exchanges : List HostExchange} {packages : List String}
      (hopen : Program.Yields (r.openPhase options).run exchanges (.ok packages))
      (hworkers : r.workers? options packages = none) :
      PhaseCourse r options exchanges (.error .deadlineOverflow)
  /-- A worker could not do its work. -/
  | broken {before : List HostExchange} {packages : List String} {workers : List Worker}
      {fault : WorkerFault}
      (hopen : Program.Yields (r.openPhase options).run before (.ok packages))
      (hworkers : r.workers? options packages = some workers) :
      PhaseCourse r options
        (before ++ [⟨.runWorkers (r.config.parallelism.jobs options.mode) workers, .error fault⟩])
        (.error (r.faultOf fault))
  /-- All workers did their work. -/
  | worked {before behind : List HostExchange} {packages : List String} {workers : List Worker}
      {finished : List Finished} {result : Except RunnerFault PhaseRun}
      (hopen : Program.Yields (r.openPhase options).run before (.ok packages))
      (hworkers : r.workers? options packages = some workers)
      (hclose : Program.Yields (r.closePhase options
        ⟨phaseOf (inOrder finished), combinedLog (inOrder finished)⟩).run behind result) :
      PhaseCourse r options
        (before ++
          ⟨.runWorkers (r.config.parallelism.jobs options.mode) workers, .ok finished⟩ :: behind)
        result

/-- A phase of single-test processes in three parts. -/
theorem runTests_eq : r.runTests options = r.openPhase options >>= fun packages =>
    match r.workers? options packages with
    | none => throw .deadlineOverflow
    | some workers =>
        ask (.runWorkers (r.config.parallelism.jobs options.mode) workers) >>= fun answer =>
          match answer with
          | .error fault => throw (r.faultOf fault)
          | .ok finished => r.closePhase options
              ⟨phaseOf (inOrder finished), combinedLog (inOrder finished)⟩ := by
  unfold runTests openPhase
  simp only [bind_assoc, pure_bind]
  rfl

theorem phaseCourse_of_runTests
    (h : Program.Yields (r.runTests options).run exchanges result) :
    PhaseCourse r options exchanges result := by
  rw [runTests_eq] at h
  rcases Program.yields_run_bind_iff.1 h with
    ⟨before, packages, behind, hopen, hrest, rfl⟩ | ⟨fault, hopen, rfl⟩
  · cases hworkers : r.workers? options packages with
    | none =>
        rw [hworkers] at hrest
        cases hrest
        rw [List.append_nil]
        exact .endless hopen hworkers
    | some workers =>
        rw [hworkers] at hrest
        cases hrest with
        | @ask _ _ answer _ _ hrest =>
            cases answer with
            | error fault =>
                cases hrest
                exact .broken hopen hworkers
            | ok finished => exact .worked hopen hworkers hrest
  · exact .unprepared hopen

/-! ## Processes in turn -/

theorem yields_execute {command : Command} {output : CommandOutput} :
    Program.Yields (execute command).run [⟨.execute command, .ok output⟩] (.ok output) :=
  .ask (.done _)

theorem yields_appendLog {file : Path} {text : String} :
    Program.Yields (onFiles (Host.appendLog file text)).run (appended file text) (.ok ()) := by
  unfold Host.appendLog Host.createParent appended
  cases file.parent? with
  | none => exact .ask (.done _)
  | some dir => exact .ask (.ask (.done _))

theorem yields_runNext {worker : Worker} {output : CommandOutput} {made : Tally} :
    Program.Yields (runNext made (some worker)).run (turn worker output)
      (.ok (made.take output)) := by
  refine Program.yields_run_bind_iff.2 (.inl ⟨_, output, _, yields_execute, ?_,
    List.singleton_append.symm⟩)
  exact Program.yields_run_bind_iff.2 (.inl ⟨_, (), [], yields_appendLog, .done _,
    (List.append_nil _).symm⟩)

/-- Processes that are all run in turn are taken in one after the other. -/
theorem yields_turns {tests : List (String × String)} {made : Tally}
    (hworkers : tests.map (r.worker? options) = workers.map some)
    (hlength : outputs.length = workers.length) :
    Program.Yields (tests.foldlM (r.runOne options) made).run (turns workers outputs)
      (.ok (outputs.foldl Tally.take made)) := by
  induction tests generalizing workers outputs made with
  | nil =>
      obtain rfl : workers = [] := List.map_eq_nil_iff.1 hworkers.symm
      obtain rfl : outputs = [] := List.length_eq_zero_iff.1 hlength
      exact .done _
  | cons test tests ih =>
      obtain ⟨worker, others, rfl, hworker, hothers⟩ := List.map_eq_cons_iff.1 hworkers.symm
      cases outputs with
      | nil => cases hlength
      | cons output outputs =>
          have hrest := @ih outputs others (made.take output) hothers.symm (Nat.succ.inj hlength)
          rw [List.foldlM_cons, runOne, ← hworker, List.foldl_cons, turns_cons]
          exact Program.yields_run_bind_iff.2 (.inl ⟨_, _, _, yields_runNext, hrest, rfl⟩)

/-! ## Deadlines -/

theorem worker?_eq_none_iff {pair : String × String} :
    r.worker? options pair = none ↔ r.config.processTimeout? = none := by
  unfold worker? singleTestRun?
  rw [Option.map_eq_none_iff, Option.map_eq_none_iff]

theorem map_worker?_of_workers? (h : r.workers? options packages = some workers) :
    (pairs packages options.tests).map (r.worker? options) = workers.map some := by
  unfold workers? at h
  generalize pairs packages options.tests = tests at h ⊢
  induction tests generalizing workers with
  | nil =>
      obtain rfl := Option.some.inj h
      rfl
  | cons test tests ih =>
      rw [List.mapM_cons] at h
      obtain ⟨worker, hworker, hrest⟩ := Option.bind_eq_some_iff.1 h
      obtain ⟨others, hothers, hmade⟩ := Option.bind_eq_some_iff.1 hrest
      obtain rfl := Option.some.inj hmade
      rw [List.map_cons, List.map_cons, hworker, ih hothers]

/-- If the workers cannot be given, it is for want of a deadline, and there are some to give. -/
theorem workers?_eq_none (h : r.workers? options packages = none) :
    r.config.processTimeout? = none ∧ pairs packages options.tests ≠ [] := by
  unfold workers? at h
  generalize pairs packages options.tests = tests at h ⊢
  induction tests with
  | nil => cases h
  | cons test tests ih =>
      refine ⟨?_, List.cons_ne_nil test tests⟩
      rw [List.mapM_cons] at h
      cases hworker : r.worker? options test with
      | none => exact worker?_eq_none_iff.1 hworker
      | some worker =>
          cases hothers : tests.mapM (r.worker? options) with
          | none => exact (ih hothers).1
          | some others =>
              rw [hworker, hothers] at h
              cases h

/-- With a deadline there are workers. -/
theorem exists_workers (options : RunOptions) (packages : List String)
    (h : r.config.processTimeout? ≠ none) : ∃ workers, r.workers? options packages = some workers :=
  Option.ne_none_iff_exists'.1 fun hnone => h (workers?_eq_none hnone).1

theorem yields_endless {tests : List (String × String)} {made : Tally} (hne : tests ≠ [])
    (h : r.config.processTimeout? = none) :
    Program.Yields (tests.foldlM (r.runOne options) made).run [] (.error .deadlineOverflow) := by
  cases tests with
  | nil => exact absurd rfl hne
  | cons test tests =>
      rw [List.foldlM_cons, runOne, worker?_eq_none_iff.2 h]
      exact .done _

/-! ## Beside each other, and in turn -/

/-- One worker was started for each test in each package that is tested, and no other. -/
def StartsOneEach (r : Runner) (options : RunOptions) (exchanges : List HostExchange) : Prop :=
  ∃ packages workers, r.Tests options exchanges packages ∧ starts exchanges = [workers] ∧
    workers.map some = (pairs packages options.tests).map (r.worker? options)

/-- **With its workers in turn, a phase goes the same way and ends in the same result.** -/
theorem PhaseCourse.yields_inTurn (h : PhaseCourse r options exchanges result)
    (hran : ∀ e ∈ exchanges, Ran outputs e) :
    Program.Yields (r.runTestsInTurn options).run (inTurn outputs exchanges) result := by
  have hfront {before : List HostExchange} {opened : Except RunnerFault (List String)}
      (hopen : Program.Yields (r.openPhase options).run before opened) :
      inTurn outputs before = before :=
    inTurn_of_quiet (quiet_openPhase hopen)
  unfold runTestsInTurn
  simp only [foldlM_pairs]
  cases h with
  | unprepared hopen =>
      rw [hfront hopen]
      exact Program.yields_run_bind_iff.2 (.inr ⟨_, hopen, rfl⟩)
  | endless hopen hworkers =>
      obtain ⟨hdeadline, hne⟩ := workers?_eq_none hworkers
      rw [hfront hopen]
      refine Program.yields_run_bind_iff.2 (.inl ⟨_, _, [], hopen, ?_, (List.append_nil _).symm⟩)
      exact Program.yields_run_bind_iff.2 (.inr ⟨_, yields_endless hne hdeadline, rfl⟩)
  | broken hopen hworkers =>
      obtain ⟨-, finished, hanswer, -⟩ := hran _ (List.mem_append_right _ (List.mem_singleton.2 rfl))
      cases hanswer
  | @worked before behind packages workers finished _ hopen hworkers hclose =>
      obtain ⟨hlength, finished', hanswer, hperm⟩ :=
        hran _ (List.mem_append_right _ List.mem_cons_self)
      obtain rfl := Except.ok.inj hanswer
      -- what was sorted and put together is what was taken in process by process
      rw [inOrder_eq hperm, ← foldl_take_eq] at hclose
      rw [inTurn_append, hfront hopen, ← List.singleton_append, inTurn_append, inTurn_workers,
        inTurn_of_quiet (quiet_closePhase hclose)]
      refine Program.yields_run_bind_iff.2 (.inl ⟨_, _, _, hopen, ?_, rfl⟩)
      exact Program.yields_run_bind_iff.2 (.inl ⟨_, _, _,
        yields_turns (map_worker?_of_workers? hworkers) hlength, hclose, rfl⟩)

/-- A phase that returns started its workers, once. -/
theorem PhaseCourse.starts_cases (h : PhaseCourse r options exchanges result) :
    ((∃ fault, result = .error fault) ∧ starts exchanges = []) ∨
      StartsOneEach r options exchanges := by
  cases h with
  | unprepared hopen => exact .inl ⟨⟨_, rfl⟩, starts_of_quiet (quiet_openPhase hopen)⟩
  | endless hopen hworkers => exact .inl ⟨⟨_, rfl⟩, starts_of_quiet (quiet_openPhase hopen)⟩
  | @broken before packages workers fault hopen hworkers =>
      refine .inr ⟨packages, workers, ?_, ?_, (map_worker?_of_workers? hworkers).symm⟩
      · exact (tests_of_openPhase hopen).mono fun e he => List.mem_append_left _ he
      · rw [starts_append, starts_of_quiet (quiet_openPhase hopen)]
        rfl
  | @worked before behind packages workers finished _ hopen hworkers hclose =>
      refine .inr ⟨packages, workers, ?_, ?_, (map_worker?_of_workers? hworkers).symm⟩
      · exact (tests_of_openPhase hopen).mono fun e he => List.mem_append_left _ he
      · rw [starts_append, starts_of_quiet (quiet_openPhase hopen), ← List.singleton_append,
          starts_append, starts_of_quiet (quiet_closePhase hclose)]
        rfl

/-- On a machine that obliges, a phase whose processes have a deadline returns. -/
theorem PhaseCourse.returns (h : PhaseCourse r options exchanges result)
    (hdeadline : r.config.processTimeout?.isSome = true) (hobliging : ∀ e ∈ exchanges, Obliging e) :
    ∃ phase, result = .ok phase := by
  have hplain : Plain True (r.openPhase options) := plain_openPhase
  cases h with
  | unprepared hopen =>
      obtain ⟨packages, hpackages⟩ := (hplain _ _ hopen).2 trivial hobliging
      cases hpackages
  | endless hopen hworkers =>
      rw [(workers?_eq_none hworkers).1] at hdeadline
      cases hdeadline
  | broken hopen hworkers =>
      obtain ⟨finished, hanswer⟩ := hobliging _ (List.mem_append_right _ (List.mem_singleton.2 rfl))
      cases hanswer
  | @worked before behind packages workers finished _ hopen hworkers hclose =>
      have hplain : Plain True (r.closePhase options
        ⟨phaseOf (inOrder finished), combinedLog (inOrder finished)⟩) := plain_closePhase
      exact (hplain _ _ hclose).2 trivial fun e he =>
        hobliging e (List.mem_append_right before (List.mem_cons_of_mem _ he))

/-! ## A replay whose workers finish in reverse

A run to which the comparison is applied. -/

theorem yields_runTests {before behind : List HostExchange} {finished : List Finished}
    (hopen : Program.Yields (r.openPhase options).run before (.ok packages))
    (hworkers : r.workers? options packages = some workers)
    (hclose : Program.Yields (r.closePhase options
      ⟨phaseOf (inOrder finished), combinedLog (inOrder finished)⟩).run behind result) :
    Program.Yields (r.runTests options).run
      (before ++
        ⟨.runWorkers (r.config.parallelism.jobs options.mode) workers, .ok finished⟩ :: behind)
      result := by
  rw [runTests_eq]
  refine Program.yields_run_bind_iff.2 (.inl ⟨_, packages, _, hopen, ?_, rfl⟩)
  rw [hworkers]
  exact .ask hclose

def sampleRunner : Runner := .ofConfig (.make .ga ⟨⟨"/work"⟩, ⟨"/work/provider"⟩⟩ .empty)

/-- A replay of two tests in each of two packages. -/
def samplePhase : RunOptions :=
  { mode := .replaying
    version := .ga
    cassetteDir := ⟨"/work/cassettes/ga"⟩
    testDirs := ["./google/services/compute", "./google/services/storage"]
    tests := ["TestAccDisk", "TestAccBucket"] }

/-- Processes that fail without a report, crash, run into the deadline, and crash once more. -/
def sampleOutputs : List CommandOutput :=
  [⟨some 1, "no space left\n", "", 800, false⟩, ⟨some 2, "panic: disk\n", "", 900, false⟩,
   ⟨none, "", "", 7000, true⟩, ⟨some 2, "panic: bucket\n", "", 600, false⟩]

/-- A replay on a machine that obliges, with what its workers print and the order in which they finish. -/
def replayExchanges (workers : List Worker) (finished : List Finished) (outputs : List CommandOutput) :
    List HostExchange :=
  [⟨.isDirectory ⟨"/work/provider"⟩, true⟩,
   ⟨.createDirectories (sampleRunner.config.layout.debugLogDir .replaying .ga), .ok ()⟩,
   ⟨.createDirectories (sampleRunner.config.layout.workerLogDir .replaying), .ok ()⟩,
   ⟨.runWorkers 16 workers, .ok finished⟩,
   ⟨.writeFile (sampleRunner.config.layout.buildLog .replaying) (combinedLog outputs), .ok ()⟩]

/-- The sample phase; its workers finish in reverse. -/
def sampleExchanges (workers : List Worker) : List HostExchange :=
  replayExchanges workers (numbered sampleOutputs).reverse sampleOutputs

theorem exists_sampleWorkers :
    ∃ workers, sampleRunner.workers? samplePhase samplePhase.testDirs = some workers ∧
      sampleOutputs.length = workers.length := by
  have hdeadline : sampleRunner.config.processTimeout? ≠ none := by decide
  obtain ⟨workers, hworkers⟩ := exists_workers samplePhase samplePhase.testDirs hdeadline
  have hlengths := congrArg List.length (map_worker?_of_workers? hworkers)
  rw [List.length_map, List.length_map] at hlengths
  exact ⟨workers, hworkers, hlengths⟩

/-- Any tests of any packages may be run so, whatever they print and in whatever order they finish. -/
theorem yields_replayExchanges {dir : String} {dirs tests : List String} {finished : List Finished}
    (hworkers : sampleRunner.workers? { samplePhase with testDirs := dir :: dirs, tests } (dir :: dirs) =
      some workers)
    (hperm : finished.Perm (numbered outputs)) :
    Program.Yields (sampleRunner.runTests { samplePhase with testDirs := dir :: dirs, tests }).run
      (replayExchanges workers finished outputs) (.ok (phaseOf outputs)) := by
  have hopen : Program.Yields
      (sampleRunner.openPhase { samplePhase with testDirs := dir :: dirs, tests }).run
      ((replayExchanges workers finished outputs).take 3) (.ok (dir :: dirs)) :=
    .ask (.ask (.ask (.done _)))
  have hclose : Program.Yields
      (sampleRunner.closePhase { samplePhase with testDirs := dir :: dirs, tests }
        ⟨phaseOf (inOrder finished), combinedLog (inOrder finished)⟩).run
      ((replayExchanges workers finished outputs).drop 4) (.ok (phaseOf outputs)) := by
    rw [inOrder_eq hperm]
    exact .ask (.done _)
  exact yields_runTests hopen hworkers hclose

theorem yields_sampleExchanges
    (hworkers : sampleRunner.workers? samplePhase samplePhase.testDirs = some workers) :
    Program.Yields (sampleRunner.runTests samplePhase).run (sampleExchanges workers)
      (.ok (phaseOf sampleOutputs)) :=
  yields_replayExchanges hworkers (List.reverse_perm _)

/-! ## The comparison -/

/-- **Workers that run beside each other make what they would make in turn.** Whatever the order in
    which they finish, and whatever else the machine answers, the phase ends in the result that it has
    if its processes are run one after the other, and all its other exchanges are the same, the log
    that it keeps among them. It starts a worker for each test in each package, unless it fails before,
    and it returns if the machine obliges. -/
theorem runTests_inTurn (h : Program.Yields (r.runTests options).run exchanges result)
    (hran : ∀ e ∈ exchanges, Ran outputs e) :
    Program.Yields (r.runTestsInTurn options).run (inTurn outputs exchanges) result ∧
      (((∃ fault, result = .error fault) ∧ starts exchanges = []) ∨
        StartsOneEach r options exchanges) ∧
      (r.config.processTimeout?.isSome = true → (∀ e ∈ exchanges, Obliging e) →
        ∃ phase, result = .ok phase) := by
  have hcourse := phaseCourse_of_runTests h
  exact ⟨hcourse.yields_inTurn hran, hcourse.starts_cases, hcourse.returns⟩

/-- Four workers that finish in reverse leave the panics in the order of the workers, and the exit error
    of the first of them. -/
theorem runTests_inTurn_reversed :
    ∃ workers phase,
      Program.Yields (sampleRunner.runTests samplePhase).run (sampleExchanges workers) (.ok phase) ∧
      (∀ e ∈ sampleExchanges workers, Ran sampleOutputs e) ∧
      (∀ e ∈ sampleExchanges workers, Obliging e) ∧
      sampleRunner.config.processTimeout?.isSome = true ∧
      Program.Yields (sampleRunner.runTestsInTurn samplePhase).run
        (inTurn sampleOutputs (sampleExchanges workers)) (.ok phase) ∧
      StartsOneEach sampleRunner samplePhase (sampleExchanges workers) ∧
      phase.result.panics = ["panic: disk", "panic: bucket"] ∧
      phase.exitError = some "exit status 1" := by
  obtain ⟨workers, hworkers, hcount⟩ := exists_sampleWorkers
  have hrun := yields_sampleExchanges hworkers
  have hran : ∀ e ∈ sampleExchanges workers, Ran sampleOutputs e := by
    have hworkersRan : Ran sampleOutputs
        ⟨.runWorkers 16 workers, .ok (numbered sampleOutputs).reverse⟩ :=
      ⟨hcount, _, rfl, List.reverse_perm _⟩
    simp only [sampleExchanges, replayExchanges, List.forall_mem_cons]
    exact ⟨trivial, trivial, trivial, hworkersRan, trivial, nofun⟩
  have hobliging : ∀ e ∈ sampleExchanges workers, Obliging e := by
    simp only [sampleExchanges, replayExchanges, List.forall_mem_cons]
    exact ⟨rfl, rfl, rfl, ⟨_, rfl⟩, rfl, nofun⟩
  obtain ⟨hturn, hstarts, -⟩ := runTests_inTurn hrun hran
  have hone : StartsOneEach sampleRunner samplePhase (sampleExchanges workers) := by
    refine hstarts.resolve_left ?_
    rintro ⟨⟨fault, hfault⟩, -⟩
    cases hfault
  have hphase : (phaseOf sampleOutputs).result.panics = ["panic: disk", "panic: bucket"] ∧
      (phaseOf sampleOutputs).exitError = some "exit status 1" := by decide +kernel
  exact ⟨workers, _, hrun, hran, hobliging, by decide, hturn, hone, hphase.1, hphase.2⟩

end CassetteGate.Runner
