import CassetteGate.Proofs.Results.Clean

/-!
# `Proofs.Results.Grouping` — phases that are put together in groups

What a phase found out is put together from many runs, and not always at once: the processes of a phase
are merged, the packages of a replay are merged, and what comes of that may be merged again. The outcome
must not depend on how the runs were grouped on the way.

A merged phase has two parts, and each is settled by the list of runs alone. Its result is the merged
result of the runs (`result_merge`), and its exit error is the first one that any of them has
(`exitError_merge`). Grouping keeps both, for reasons of their own: a group loses only reports that
something worse in the same group outdoes, and of the errors in a group it is the first that is kept,
which comes before those of all later groups (`findSome?_map_merge`).

Order is another matter. The sets of tests are the same for any order, but the panics are listed as the
runs are, and which error is the first one depends on where it stands (`Reordered`); any of them can be
(`exists_perm_exitError_merge`).

## Contents
- **`FirstError`**, `exitError_merge_eq_some_iff`, `exitError_merge_eq_none_iff`: the error that is kept.
- **`merge_groups`**: merging in groups.
- **`Reordered`**, **`reordered_of_perm`**, `exists_perm_exitError_merge`: merging in another order.
- **`merge_grouped`**: all of this at once.
-/

namespace CassetteGate.PhaseRun

variable {runs other : List PhaseRun} {reason : String}

/-! ## Exit errors -/

/-- The first exit error among some runs. -/
def FirstError (runs : List PhaseRun) (reason : String) : Prop :=
  ∃ before run behind, runs = before ++ run :: behind ∧ run.exitError = some reason ∧
    ∀ earlier ∈ before, earlier.exitError = none

theorem exitError_merge_eq_some_iff :
    (merge runs).exitError = some reason ↔ FirstError runs reason := by
  rw [exitError_merge]
  exact List.findSome?_eq_some_iff

theorem exitError_merge_eq_none_iff :
    (merge runs).exitError = none ↔ ∀ run ∈ runs, run.exitError = none := by
  rw [exitError_merge]
  exact List.findSome?_eq_none_iff

/-! ## Groups -/

/-- The first error of the first group that has any is the first of all. -/
theorem findSome?_map_merge (groups : List (List PhaseRun)) :
    (groups.map merge).findSome? exitError = groups.flatten.findSome? exitError := by
  induction groups with
  | nil => rfl
  | cons group groups ih =>
      rw [List.map_cons, List.findSome?_cons, exitError_merge, List.flatten_cons,
        List.findSome?_append, ih]
      cases group.findSome? exitError <;> rfl

/-- **Merging group by group, and then the groups, is merging all at once.** -/
theorem merge_groups (groups : List (List PhaseRun)) :
    merge (groups.map merge) = merge groups.flatten := by
  have hresult : (merge (groups.map merge)).result = (merge groups.flatten).result := by
    have hgroups : (groups.map merge).map result
        = (groups.map (List.map result)).map RunResult.merge := by
      rw [List.map_map, List.map_map]
      exact List.map_congr_left fun group _ => result_merge group
    rw [result_merge, result_merge, hgroups, RunResult.merge_flatten, List.map_flatten]
  have herror : (merge (groups.map merge)).exitError = (merge groups.flatten).exitError := by
    rw [exitError_merge, exitError_merge, findSome?_map_merge]
  exact congrArg₂ PhaseRun.mk hresult herror

/-! ## Orders -/

/-- Two phases that differ at most in the order of their panics, and in which exit error of `runs` they
    have. -/
structure Reordered (runs : List PhaseRun) (phase phase' : PhaseRun) : Prop where
  /-- The same tests passed. -/
  passed : phase.result.passed = phase'.result.passed
  /-- The same tests failed. -/
  failed : phase.result.failed = phase'.result.failed
  /-- The same tests were skipped. -/
  skipped : phase.result.skipped = phase'.result.skipped
  /-- The same panics are listed, each as often. -/
  panics : phase.result.panics.Perm phase'.result.panics
  /-- Both have an exit error or none of them has. -/
  exitError : phase.exitError.isSome = phase'.exitError.isSome
  /-- If they have one, it is that of a run. -/
  ofRun : ∀ reason, phase.exitError = some reason ∨ phase'.exitError = some reason →
    ∃ run ∈ runs, run.exitError = some reason

/-- An exit error of merged runs is that of one of them. -/
theorem exists_of_exitError_merge (h : (merge runs).exitError = some reason) :
    ∃ run ∈ runs, run.exitError = some reason := by
  rw [exitError_merge] at h
  exact List.exists_of_findSome?_eq_some h

theorem isSome_exitError_merge_iff :
    (merge runs).exitError.isSome = true ↔ ∃ run ∈ runs, run.exitError.isSome = true := by
  rw [exitError_merge]
  exact List.findSome?_isSome_iff

/-- **In another order, runs make the same but for the order of panics and the choice of the error.** -/
theorem reordered_of_perm (h : runs.Perm other) : Reordered runs (merge runs) (merge other) := by
  have hresults : (runs.map result).Perm (other.map result) := h.map result
  have hsets : (RunResult.merge (other.map result)).WorstOf (RunResult.AnyHas (runs.map result)) := by
    apply (RunResult.worstOf_merge (other.map result)).congr
    intro o n
    exact exists_congr fun r => and_congr_left fun _ => hresults.mem_iff.symm
  obtain ⟨hpassed, hfailed, hskipped⟩ := (RunResult.worstOf_merge (runs.map result)).sets_eq hsets
  rw [← result_merge, ← result_merge] at hpassed hfailed hskipped
  refine ⟨hpassed, hfailed, hskipped, ?_, ?_, ?_⟩
  · rw [result_merge, result_merge, RunResult.panics_merge, RunResult.panics_merge]
    exact hresults.flatMap_right _
  · rw [Bool.eq_iff_iff, isSome_exitError_merge_iff, isSome_exitError_merge_iff]
    exact exists_congr fun run => and_congr_left fun _ => h.mem_iff
  · rintro reason (hfirst | hfirst)
    · exact exists_of_exitError_merge hfirst
    · obtain ⟨run, hrun, hreason⟩ := exists_of_exitError_merge hfirst
      exact ⟨run, h.mem_iff.2 hrun, hreason⟩

/-- Each exit error is kept in some order of the runs. -/
theorem exists_perm_exitError_merge {run : PhaseRun} (hrun : run ∈ runs)
    (hreason : run.exitError = some reason) :
    ∃ other, runs.Perm other ∧ (merge other).exitError = some reason := by
  obtain ⟨before, behind, rfl⟩ := List.append_of_mem hrun
  refine ⟨run :: (before ++ behind), List.perm_middle, ?_⟩
  exact exitError_merge_eq_some_iff.2 ⟨[], run, before ++ behind, rfl, hreason, List.forall_mem_nil _⟩

/-! ## The result -/

/-- **What a merged phase is**, and what it does not depend on: its result is that of the runs in their
    order, and its exit error is the first of theirs. So no grouping of consecutive runs makes a
    difference, whatever results they have; and another order makes none but to the order of panics and
    the choice of the error, which may fall on any that there is. -/
theorem merge_grouped :
    (∀ runs, (merge runs).result = RunResult.merge (runs.map result) ∧
      (∀ reason, (merge runs).exitError = some reason ↔ FirstError runs reason) ∧
      ((merge runs).exitError = none ↔ ∀ run ∈ runs, run.exitError = none)) ∧
    (∀ groups : List (List PhaseRun), merge (groups.map merge) = merge groups.flatten) ∧
    (∀ runs other : List PhaseRun, runs.Perm other → Reordered runs (merge runs) (merge other)) ∧
    ∀ runs : List PhaseRun, ∀ run ∈ runs, ∀ reason, run.exitError = some reason →
      ∃ other, runs.Perm other ∧ (merge other).exitError = some reason := by
  refine ⟨?_, merge_groups, fun _ _ hperm => reordered_of_perm hperm,
    fun _ _ hrun _ hreason => exists_perm_exitError_merge hrun hreason⟩
  intro runs
  exact ⟨result_merge runs, fun reason => exitError_merge_eq_some_iff, exitError_merge_eq_none_iff⟩

/-- Three runs that overlap: one without an error, and two with an error and a panic each. -/
def sampleRuns : List PhaseRun :=
  [.ofResult (.record (.record .empty .pass "TestAccDisk") .skip "TestAccVpn"),
   ⟨.addPanic (.record .empty .fail "TestAccDisk") "panic: no such disk", some "build failed"⟩,
   ⟨.addPanic (.record .empty .pass "TestAccVpn") "panic: no such network", some "exit status 2"⟩]

/-- Merged in two groups they make what they make at once; in the opposite order the other error is kept
    and the panics change places, and the tests are the same. -/
theorem merge_grouped_sample :
    merge [merge (sampleRuns.take 2), merge (sampleRuns.drop 2)] = merge sampleRuns ∧
    (merge sampleRuns).exitError = some "build failed" ∧
    (merge sampleRuns.reverse).exitError = some "exit status 2" ∧
    (merge sampleRuns).result.panics = ["panic: no such disk", "panic: no such network"] ∧
    sampleRuns.Perm sampleRuns.reverse ∧
    Reordered sampleRuns (merge sampleRuns) (merge sampleRuns.reverse) ∧
    (∃ run ∈ sampleRuns, run.exitError = some "exit status 2") ∧
    ∃ other, sampleRuns.Perm other ∧ (merge other).exitError = some "exit status 2" := by
  obtain ⟨hmerge, hgroups, horder, hkept⟩ := merge_grouped
  have hperm : sampleRuns.Perm sampleRuns.reverse := (List.reverse_perm sampleRuns).symm
  have hlast : sampleRuns[2] ∈ sampleRuns := List.getElem_mem _
  refine ⟨hgroups [sampleRuns.take 2, sampleRuns.drop 2], ?_, ?_, by decide +kernel, hperm,
    horder _ _ hperm, ⟨sampleRuns[2], hlast, rfl⟩, hkept sampleRuns sampleRuns[2] hlast _ rfl⟩
  · exact ((hmerge sampleRuns).2.1 _).2 ⟨[sampleRuns[0]], sampleRuns[1], [sampleRuns[2]], rfl, rfl,
      List.forall_mem_singleton.2 rfl⟩
  · exact ((hmerge sampleRuns.reverse).2.1 _).2 ⟨[], sampleRuns[2], [sampleRuns[1], sampleRuns[0]], rfl,
      rfl, List.forall_mem_nil _⟩

end CassetteGate.PhaseRun
