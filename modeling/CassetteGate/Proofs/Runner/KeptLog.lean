import CassetteGate.Proofs.LogStreams
import CassetteGate.Proofs.Runner.InTurn

/-!
# `Proofs.Runner.KeptLog` — the log of a phase, and its result

A phase of single-test processes has two accounts of what happened. Its result is merged from what each
process says, and its log is put together from what each process printed. Whoever reads the log should
find the result again.

The outputs are put one behind the other as they are. A process that is killed, or that crashes, may
stop in the middle of a line, and then the first line of the next process is printed behind it: a test
that is reported there is lost, and a panic has another text. So the log tells the result if each
output ends its line, where something is printed behind it (`told_of_onOwnLines`). Nothing less is
enough: a log that tells the result goes on to do so, whatever the next process prints, exactly if it
leaves no line open (`forall_told_concat_iff`).

## Contents
- **`Told`**: a log that tells the result of its phase.
- **`told_of_onOwnLines`**, **`forall_told_concat_iff`**: when it does.
- **`KeepsLog`**, `keepsLog_of_runTests`: the log that a phase keeps.
- **`keptLog_told`**: the log and the result of a phase.
-/

namespace CassetteGate.Runner

open Host TestLog

variable {r : Runner} {options : RunOptions} {outputs : List CommandOutput}
  {exchanges : List HostExchange} {phase : PhaseRun}

/-! ## Logs that tell the result -/

/-- Reading the log of a phase gives its result. -/
def Told (outputs : List CommandOutput) : Prop :=
  parse (combinedLog outputs) = (phaseOf outputs).result

theorem result_phaseOf (outputs : List CommandOutput) :
    (phaseOf outputs).result = RunResult.merge ((outputs.map CommandOutput.combined).map parse) := by
  unfold phaseOf
  rw [PhaseRun.result_merge, List.map_map, List.map_map]
  rfl

/-- **The log tells the result if no output leaves a line open for another one.** -/
theorem told_of_onOwnLines (h : OnOwnLines (outputs.map CommandOutput.combined)) : Told outputs := by
  unfold Told
  rw [result_phaseOf]
  exact parse_join h

/-- With one process more, what it printed is read behind the log of the others. -/
theorem told_concat_iff (next : CommandOutput) :
    Told (outputs ++ [next]) ↔
      parse (combinedLog outputs ++ next.combined) =
        RunResult.merge [(phaseOf outputs).result, parse next.combined] := by
  have hlog : combinedLog (outputs ++ [next]) = combinedLog outputs ++ next.combined := by
    unfold combinedLog
    rw [List.map_append, List.map_singleton, String.join_append, String.join_cons, String.join_nil,
      String.append_empty]
  have hresult : (phaseOf (outputs ++ [next])).result =
      RunResult.merge [(phaseOf outputs).result, parse next.combined] := by
    rw [result_phaseOf, result_phaseOf, List.map_append, List.map_append, RunResult.merge_append,
      List.map_singleton, List.map_singleton, merge_parse]
  unfold Told
  rw [hlog, hresult]

/-- A process that prints a text, and all is well. -/
def printing (text : String) : CommandOutput := ⟨some 0, text, "", 0, false⟩

/-- **A log goes on to tell the result, whatever the next process prints, exactly if it does so and
    leaves no line open.** -/
theorem forall_told_concat_iff :
    (∀ next, Told (outputs ++ [next])) ↔ Told outputs ∧ EndsLine (combinedLog outputs) := by
  constructor
  · intro h
    have hnext (text : String) : parse (combinedLog outputs ++ text) =
        RunResult.merge [(phaseOf outputs).result, parse text] :=
      (told_concat_iff (printing text)).1 (h (printing text))
    have htold : Told outputs := by
      -- a process that prints nothing leaves the log and the result as they are
      have hnothing := hnext ""
      rw [String.append_empty, parse_empty, result_phaseOf, ← RunResult.merge_append,
        List.append_nil, ← result_phaseOf] at hnothing
      exact hnothing
    refine ⟨htold, parse_append_iff.1 fun text => ?_⟩
    rw [hnext, htold]
  · rintro ⟨htold, hends⟩ next
    rw [told_concat_iff, ← htold]
    exact parse_append (.inl hends)

/-! ## The log of a phase -/

/-- The last thing that a phase does is to keep the log of what its workers printed. -/
structure KeepsLog (r : Runner) (options : RunOptions) (exchanges : List HostExchange)
    (outputs : List CommandOutput) : Prop where
  /-- Workers were run, and `outputs` is what they printed, in the order in which they were given. -/
  workers : ∃ jobs workers finished,
    ⟨.runWorkers jobs workers, .ok finished⟩ ∈ exchanges ∧ inOrder finished = outputs
  /-- The log is written to its file. -/
  log : exchanges.getLast? =
    some ⟨.writeFile (r.config.layout.buildLog options.mode) (combinedLog outputs), .ok ()⟩

theorem yields_closePhase_ok {made : Tally}
    (h : Program.Yields (r.closePhase options made).run exchanges (.ok phase)) :
    exchanges = [⟨.writeFile (r.config.layout.buildLog options.mode) made.log, .ok ()⟩] ∧
      phase = made.phase := by
  cases h with
  | @ask _ _ answer _ _ h =>
      cases answer with
      | ok done =>
          cases h
          exact ⟨rfl, rfl⟩
      | error e => cases h

/-- A phase that returns has kept the log of its processes. -/
theorem keepsLog_of_runTests (h : Program.Yields (r.runTests options).run exchanges (.ok phase)) :
    ∃ outputs, KeepsLog r options exchanges outputs ∧ phase = phaseOf outputs := by
  cases phaseCourse_of_runTests h with
  | @worked before behind packages workers finished _ hopen hworkers hclose =>
      obtain ⟨rfl, rfl⟩ := yields_closePhase_ok hclose
      refine ⟨inOrder finished, ⟨?_, ?_⟩, rfl⟩
      · exact ⟨_, workers, finished, List.mem_append_right before List.mem_cons_self, rfl⟩
      · rw [List.getLast?_append_of_ne_nil before (List.cons_ne_nil _ _)]
        rfl

/-! ## A process that stops in the middle of a line

Two runs to which the result is applied. -/

/-- The sample phase on a machine that obliges; its workers make `outputs`. -/
def keptExchanges (workers : List Worker) (outputs : List CommandOutput) : List HostExchange :=
  replayExchanges workers (numbered outputs) outputs

theorem yields_keptExchanges {workers : List Worker}
    (hworkers : sampleRunner.workers? samplePhase samplePhase.testDirs = some workers)
    (outputs : List CommandOutput) :
    Program.Yields (sampleRunner.runTests samplePhase).run (keptExchanges workers outputs)
      (.ok (phaseOf outputs)) :=
  yields_replayExchanges hworkers (.refl (numbered outputs))

theorem KeepsLog.outputs_eq {workers : List Worker} {made : List CommandOutput}
    (h : KeepsLog sampleRunner samplePhase (keptExchanges workers outputs) made) : made = outputs := by
  obtain ⟨jobs, workers', finished, hmem, rfl⟩ := h.workers
  simp only [keptExchanges, replayExchanges, List.mem_cons, List.not_mem_nil, or_false] at hmem
  rcases hmem with h | h | h | h | h <;> cases h
  exact inOrder_eq (.refl _)

/-- A provider that crashes behind a test that passed, and is killed before it ends the line. -/
def brokenOff : CommandOutput :=
  ⟨none, "--- PASS: TestAccDisk (0.1s)\npanic: no such disk", "", 900, true⟩

/-- The outputs of the sample phase if its first process is broken off, and the second passes. -/
def gluedOutputs : List CommandOutput :=
  [brokenOff, printing "--- PASS: TestAccBucket (0.2s)\n", printing "PASS\n", printing "PASS\n"]

/-! ## The result -/

/-- **The log that a phase keeps tells its result, if no output leaves a line open for another one.**
    And where it tells the result, it goes on to do so behind any other process exactly if it leaves
    no line open itself. -/
theorem keptLog_told (h : Program.Yields (r.runTests options).run exchanges (.ok phase)) :
    ∃ outputs, KeepsLog r options exchanges outputs ∧ phase = phaseOf outputs ∧
      (OnOwnLines (outputs.map CommandOutput.combined) →
        parse (combinedLog outputs) = phase.result) ∧
      ((∀ next, Told (outputs ++ [next])) ↔ Told outputs ∧ EndsLine (combinedLog outputs)) := by
  obtain ⟨outputs, hkeeps, rfl⟩ := keepsLog_of_runTests h
  exact ⟨outputs, hkeeps, rfl, told_of_onOwnLines, forall_told_concat_iff⟩

/-- Processes that end their lines are told as they are. Behind one that is broken off, a test that passed
    is lost, and its report has become a part of the panic before it. -/
theorem keptLog_told_brokenOff :
    (∃ exchanges phase,
      Program.Yields (sampleRunner.runTests samplePhase).run exchanges (.ok phase) ∧
      KeepsLog sampleRunner samplePhase exchanges sampleOutputs ∧
      OnOwnLines (sampleOutputs.map CommandOutput.combined) ∧
      parse (combinedLog sampleOutputs) = phase.result) ∧
    ∃ exchanges phase,
      Program.Yields (sampleRunner.runTests samplePhase).run exchanges (.ok phase) ∧
      KeepsLog sampleRunner samplePhase exchanges gluedOutputs ∧
      phase.result.passed = .ofList ["TestAccBucket", "TestAccDisk"] ∧
      phase.result.panics = ["panic: no such disk"] ∧
      (parse (combinedLog gluedOutputs)).passed = .ofList ["TestAccDisk"] ∧
      (parse (combinedLog gluedOutputs)).panics =
        ["panic: no such disk--- PASS: TestAccBucket (0.2s)"] := by
  obtain ⟨workers, hworkers, -⟩ := exists_sampleWorkers
  constructor
  · have hrun := yields_keptExchanges hworkers sampleOutputs
    obtain ⟨outputs, hkeeps, -, htold, -⟩ := keptLog_told hrun
    obtain rfl := hkeeps.outputs_eq
    have hlines : OnOwnLines (sampleOutputs.map CommandOutput.combined) := by decide +kernel
    exact ⟨_, _, hrun, hkeeps, hlines, htold hlines⟩
  · have hrun := yields_keptExchanges hworkers gluedOutputs
    obtain ⟨outputs, hkeeps, hphase, -, -⟩ := keptLog_told hrun
    obtain rfl := hkeeps.outputs_eq
    have hresult : (phaseOf gluedOutputs).result =
        { RunResult.empty with
          passed := .ofList ["TestAccBucket", "TestAccDisk"]
          panics := ["panic: no such disk"] } := by decide +kernel
    have hread : parse (combinedLog gluedOutputs) =
        { RunResult.empty with
          passed := .ofList ["TestAccDisk"]
          panics := ["panic: no such disk--- PASS: TestAccBucket (0.2s)"] } := by decide +kernel
    refine ⟨_, _, hrun, hkeeps, ?_⟩
    rw [hresult, hread]
    exact ⟨rfl, rfl, rfl, rfl⟩

end CassetteGate.Runner
