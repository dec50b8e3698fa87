import CassetteGate.Proofs.Results.Merged
import CassetteGate.Proofs.TestLog
import CassetteGate.Proofs.Verdict
import CassetteGate.Runner.Phases

/-!
# `Proofs.Results.Clean` — when a phase is clean

A phase is clean if nothing failed, nothing crashed and no exit is left unexplained. Two steps lie
between the processes of a phase and that judgement, and each could hide a failure: an exit is
dropped where the log accounts for it, and of several phases taken together only one set of failures
and the first exit error remain.

Neither hides anything. An exit is only ever dropped beside a failed test or a crash, and those make
the phase unclean themselves (`unexplainedExit?_eq_none_iff`). And a merged phase has all failures, all
panics and the first exit error of its parts, so it is clean exactly if each of them is
(`PhaseRun.isClean_merge_iff`), whatever their number and order. What remains is a question about each
process alone: how it ended, and which lines it printed.

## Contents
- **`PhaseRun.isClean_merge_iff`**: phases taken together.
- **`CommandOutput.Untroubled`**: a process that ended well and printed nothing against it.
- **`PhaseRun.isClean_ofOutput_iff`**: one process.
- **`isClean_iff_untroubled`**: all processes of a phase.
-/

namespace CassetteGate

/-! ## Phases taken together -/

namespace RunResult

variable {results : List RunResult}

theorem failed_isEmpty_merge_iff :
    (merge results).failed.isEmpty = true ↔ ∀ r ∈ results, r.failed.isEmpty = true := by
  simp only [NameSet.isEmpty_iff, (worstOf_merge results).failed]
  constructor
  · intro hnone r hr name hname
    exact hnone name ⟨r, hr, hname⟩
  · rintro hnone name ⟨r, hr, hname⟩
    exact hnone r hr name hname

theorem crashed_merge_iff :
    (merge results).crashed = false ↔ ∀ r ∈ results, r.crashed = false := by
  simp only [crashed_eq_false_iff, panics_merge, List.flatMap_eq_nil_iff]

end RunResult

namespace PhaseRun

variable {runs : List PhaseRun}

theorem exitError_foldl_absorb (run : PhaseRun) (runs : List PhaseRun) :
    (runs.foldl absorb run).exitError = run.exitError.or (runs.findSome? exitError) := by
  induction runs generalizing run with
  | nil => exact Option.or_none.symm
  | cons part runs ih =>
      have hfirst : (run.absorb part).exitError = run.exitError.or part.exitError := rfl
      rw [List.foldl_cons, ih, hfirst, Option.or_assoc, List.findSome?_cons]
      cases part.exitError <;> rfl

/-- Of several phases taken together, the first exit error remains. -/
theorem exitError_merge (runs : List PhaseRun) :
    (merge runs).exitError = runs.findSome? exitError :=
  exitError_foldl_absorb empty runs

/-- Taken together, phases have the failures of each of them. -/
theorem mem_failed_merge_iff {name : String} :
    name ∈ (merge runs).result.failed ↔ ∃ part ∈ runs, name ∈ part.result.failed := by
  rw [result_merge, (RunResult.worstOf_merge _).failed]
  exact RunResult.anyHas_map

/-- **Phases taken together are clean exactly if each of them is.** -/
theorem isClean_merge_iff : (merge runs).isClean = true ↔ ∀ part ∈ runs, part.isClean = true := by
  simp only [isClean_iff]
  rw [result_merge, RunResult.failed_isEmpty_merge_iff, RunResult.crashed_merge_iff,
    exitError_merge, List.findSome?_eq_none_iff, List.forall_mem_map, List.forall_mem_map]
  constructor
  · rintro ⟨hfailed, hcrashed, hexit⟩ part hpart
    exact ⟨hfailed part hpart, hcrashed part hpart, hexit part hpart⟩
  · intro h
    exact ⟨fun part hpart => (h part hpart).1, fun part hpart => (h part hpart).2.1,
      fun part hpart => (h part hpart).2.2⟩

end PhaseRun

/-! ## One process -/

variable {output : CommandOutput} {parsed : RunResult}

/-- An exit is left out only beside a failed test or a crash; without either, only success is. -/
theorem unexplainedExit?_eq_none_iff (hfailed : parsed.failed.isEmpty = true)
    (hcrashed : parsed.crashed = false) :
    unexplainedExit? output parsed = none ↔ output.success = true := by
  unfold unexplainedExit?
  by_cases htime : output.timedOut = true
  · have hfails : output.success = false := by simp [CommandOutput.success, htime]
    simp [htime, hfails]
  · by_cases hsuccess : output.success = true
    · simp [htime, hsuccess]
    · -- the branch for explained exits is shut, and every other one gives an error
      simp only [if_neg htime, if_neg hsuccess, hfailed, hcrashed, Bool.not_true, Bool.or_false]
      refine iff_of_false ?_ hsuccess
      split
      · exact nofun
      · split
        · exact nofun
        · cases output.exitCode <;> exact nofun

namespace CommandOutput

/-- A process that ended of its own accord with exit code 0, and printed neither a failed acceptance
    test nor a panic. -/
structure Untroubled (o : CommandOutput) : Prop where
  /-- It reported success. -/
  exitCode : o.exitCode = some 0
  /-- It was not killed at its deadline. -/
  inTime : o.timedOut = false
  /-- No line, not indented, reports an acceptance test as failed. -/
  noFailure : ∀ line ∈ Text.splitLines o.combined.toList, ¬ TestLog.IsFailLine line
  /-- No line starts as a panic does. -/
  noPanic : ∀ line ∈ Text.splitLines o.combined.toList, ¬ TestLog.IsPanicLine line

theorem success_iff : output.success = true ↔ output.exitCode = some 0 ∧ output.timedOut = false := by
  unfold success
  rw [Bool.and_eq_true, Bool.not_eq_true', beq_iff_eq, and_comm]

end CommandOutput

/-- **The phase of one process is clean exactly if the process gave no trouble.** -/
theorem PhaseRun.isClean_ofOutput_iff : (ofOutput output).isClean = true ↔ output.Untroubled := by
  rw [isClean_iff]
  constructor
  · rintro ⟨hfailed, hcrashed, hexit⟩
    obtain ⟨hcode, htime⟩ :=
      CommandOutput.success_iff.1 ((unexplainedExit?_eq_none_iff hfailed hcrashed).1 hexit)
    exact ⟨hcode, htime, TestLog.failed_isEmpty_parse_iff.1 hfailed,
      TestLog.crashed_parse_iff.1 hcrashed⟩
  · intro h
    have hfailed := TestLog.failed_isEmpty_parse_iff.2 h.noFailure
    have hcrashed := TestLog.crashed_parse_iff.2 h.noPanic
    have hsuccess : output.success = true := CommandOutput.success_iff.2 ⟨h.exitCode, h.inTime⟩
    exact ⟨hfailed, hcrashed, (unexplainedExit?_eq_none_iff hfailed hcrashed).2 hsuccess⟩

/-! ## All processes of a phase -/

/-- **A phase is clean exactly if each of its processes gave no trouble**, be it a process for each
    single test or one for all. -/
theorem isClean_iff_untroubled :
    (∀ outputs, (Runner.phaseOf outputs).isClean = true ↔ ∀ o ∈ outputs, o.Untroubled) ∧
      ∀ o, (PhaseRun.ofOutput o).isClean = true ↔ o.Untroubled := by
  refine ⟨?_, fun o => PhaseRun.isClean_ofOutput_iff⟩
  intro outputs
  unfold Runner.phaseOf
  rw [PhaseRun.isClean_merge_iff, List.forall_mem_map]
  exact forall₂_congr fun o _ => PhaseRun.isClean_ofOutput_iff

end CassetteGate
