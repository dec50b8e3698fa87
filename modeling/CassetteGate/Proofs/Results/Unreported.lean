import CassetteGate.Proofs.Verdict
import Mathlib.Data.List.Perm.Subperm

/-!
# `Proofs.Results.Unreported` — tests that a recording leaves unreported

A recording is asked for the tests that failed in the replay. A worker that dies takes its tests with
it, and nothing in the log says so. That tests were lost is told by two counts alone: fewer tests
passed or failed than were asked for. Names are not compared.

The count is exact as long as the recording reports on nothing else than what it was asked for, and on
no test twice (`RunResult.ReportsOn`). What passed and what failed are two disjoint parts of what was
asked for then, and by the pigeonhole principle their sizes add up to less than the whole exactly if
some test lies in neither. A passed verdict rules out failed and unreported tests, so such a recording
passed on everything that it was asked for.

## Contents
- **`NameSet.size_add_size_lt_iff`**: the pigeonhole principle for two disjoint parts of a set.
- **`RunResult.hasTerminatedTests_iff`**: what the count says of the names.
- **`RunState.passed_eq_failed_of_recordingClean`**: what a clean recording has recorded.
- **`terminatedTests_exact`**: both, for states and their verdicts.
-/

namespace CassetteGate

/-! ## Counting names -/

namespace NameSet

variable {a b s : NameSet}

/-- Two disjoint parts of a set are smaller together than the set exactly if they leave something
    out. -/
theorem size_add_size_lt_iff (hdisjoint : ∀ x ∈ a, x ∉ b) (ha : ∀ x ∈ a, x ∈ s)
    (hb : ∀ x ∈ b, x ∈ s) : a.size + b.size < s.size ↔ ∃ x ∈ s, x ∉ a ∧ x ∉ b := by
  have hcount : a.size + b.size = (a.toList ++ b.toList).length := List.length_append.symm
  have hsub : a.toList ++ b.toList ⊆ s.toList := List.append_subset.2 ⟨ha, hb⟩
  rw [hcount]
  constructor
  · intro hlt
    -- if nothing were left out, the set would fit into its parts
    by_contra hnone
    have hall : s.toList ⊆ a.toList ++ b.toList := by
      intro x hx
      rw [List.mem_append]
      by_contra hout
      exact hnone ⟨x, hx, not_or.1 hout⟩
    have hle : s.size ≤ (a.toList ++ b.toList).length :=
      (List.subperm_of_subset s.nodup hall).length_le
    omega
  · rintro ⟨x, hx, hxa, hxb⟩
    -- one more name fits in beside the parts
    have hnew : x ∉ a.toList ++ b.toList := by
      rw [List.mem_append, not_or]
      exact ⟨hxa, hxb⟩
    have hnodup : (x :: (a.toList ++ b.toList)).Nodup :=
      List.nodup_cons.2 ⟨hnew, nodup_append hdisjoint⟩
    have hle : (x :: (a.toList ++ b.toList)).length ≤ s.size :=
      (List.subperm_of_subset hnodup (List.cons_subset.2 ⟨hx, hsub⟩)).length_le
    rw [List.length_cons] at hle
    omega

end NameSet

/-! ## Results that report on what was asked for -/

/-- A test is reported as passed or as failed only if it was asked for, and not as both. -/
structure RunResult.ReportsOn (r : RunResult) (asked : NameSet) : Prop where
  /-- No test both passed and failed. -/
  disjoint : ∀ test ∈ r.passed, test ∉ r.failed
  /-- What passed was asked for. -/
  passed : ∀ test ∈ r.passed, test ∈ asked
  /-- What failed was asked for. -/
  failed : ∀ test ∈ r.failed, test ∈ asked

instance (r : RunResult) (asked : NameSet) : Decidable (r.ReportsOn asked) :=
  decidable_of_iff
    ((∀ test ∈ r.passed, test ∉ r.failed) ∧ (∀ test ∈ r.passed, test ∈ asked) ∧
      ∀ test ∈ r.failed, test ∈ asked)
    ⟨fun ⟨hd, hp, hf⟩ => ⟨hd, hp, hf⟩, fun ⟨hd, hp, hf⟩ => ⟨hd, hp, hf⟩⟩

variable {replay record : RunResult}

/-- **Tests are counted as lost exactly if one of them was not reported.** -/
theorem RunResult.hasTerminatedTests_iff (h : record.ReportsOn replay.failed) :
    hasTerminatedTests replay record = true ↔
      ∃ test ∈ replay.failed, test ∉ record.passed ∧ test ∉ record.failed := by
  unfold hasTerminatedTests
  rw [decide_eq_true_iff]
  exact NameSet.size_add_size_lt_iff h.disjoint h.passed h.failed

/-- In a recording without failures or losses, everything passed that was asked for. -/
theorem RunResult.passed_eq_of_failed_isEmpty (h : record.ReportsOn replay.failed)
    (hnone : record.failed.isEmpty = true) (hkept : hasTerminatedTests replay record = false) :
    record.passed = replay.failed := by
  ext test
  constructor
  · exact h.passed test
  · intro hasked
    by_contra hout
    have hfailed : test ∉ record.failed := NameSet.isEmpty_iff.1 hnone test
    have hlost : hasTerminatedTests replay record = true :=
      (hasTerminatedTests_iff h).2 ⟨test, hasked, hout, hfailed⟩
    exact absurd (hkept.symm.trans hlost) nofun

/-! ## States -/

variable {s : RunState}

/-- What is known of a state whose replay and recording came out as told. -/
theorem RunState.hasTerminatedTests_eq (hreplay : s.replay.map (·.result) = some replay)
    (hrecord : s.record.map (·.result) = some record) :
    s.hasTerminatedTests = RunResult.hasTerminatedTests replay record := by
  obtain ⟨p, hp, rfl⟩ := Option.map_eq_some_iff.1 hreplay
  obtain ⟨q, hq, rfl⟩ := Option.map_eq_some_iff.1 hrecord
  unfold hasTerminatedTests
  rw [hp, hq]

theorem RunState.passed_eq_failed_of_recordingClean (h : record.ReportsOn replay.failed)
    (hreplay : s.replay.map (·.result) = some replay)
    (hrecord : s.record.map (·.result) = some record) (hclean : s.recordingClean = true) :
    record.passed = replay.failed := by
  obtain ⟨run, hrun, hrunClean, hkept⟩ := RunState.recordingClean_iff.1 hclean
  obtain rfl : run.result = record := by
    rw [hrun] at hrecord
    exact Option.some.inj hrecord
  rw [RunState.hasTerminatedTests_eq hreplay hrecord] at hkept
  exact RunResult.passed_eq_of_failed_isEmpty h (PhaseRun.isClean_iff.1 hrunClean).1 hkept

/-- **The count of lost tests is exact, and a run with failures in its replay passes only if all of
    them were recorded**, whatever else its state says. -/
theorem terminatedTests_exact (h : record.ReportsOn replay.failed) :
    (RunResult.hasTerminatedTests replay record = true ↔
      ∃ test ∈ replay.failed, test ∉ record.passed ∧ test ∉ record.failed) ∧
    ∀ s : RunState, s.replay.map (·.result) = some replay →
      s.record.map (·.result) = some record → replay.failed.isEmpty = false →
      (Verdict.of s).passed = true → record.passed = replay.failed := by
  refine ⟨RunResult.hasTerminatedTests_iff h, ?_⟩
  intro s hreplay hrecord hfailures hpassed
  obtain ⟨run, hrun, hclean | ⟨-, -, hrecording, -⟩⟩ := Verdict.passed_iff.1 hpassed
  · -- a clean replay has no failures
    obtain rfl : run.result = replay := by
      rw [hrun] at hreplay
      exact Option.some.inj hreplay
    exact absurd (hfailures.symm.trans (PhaseRun.isClean_iff.1 hclean).1) nofun
  · exact RunState.passed_eq_failed_of_recordingClean h hreplay hrecord hrecording

/-- Two tests that failed in a replay. -/
def sampleFailures : RunResult := RunResult.empty.recordAll .fail ["TestA", "TestB"]

/-- A recording in which the given ones of them passed. -/
def sampleRecording (tests : List String) : RunResult := RunResult.empty.recordAll .pass tests

/-- A state with these results, in which what was recorded replays. -/
def sampleRecorded (tests : List String) : RunState :=
  { RunState.start .everything with
    replay := some (.ofResult sampleFailures)
    record := some (.ofResult (sampleRecording tests))
    confirm := some .empty }

/-- One of two tests is lost, and this is counted; if neither is, the state passes, and both were
    recorded. -/
theorem terminatedTests_exact_sample :
    (RunResult.hasTerminatedTests sampleFailures (sampleRecording ["TestB"]) = true ∧
      ∃ test ∈ sampleFailures.failed, test ∉ (sampleRecording ["TestB"]).passed ∧
        test ∉ (sampleRecording ["TestB"]).failed) ∧
    ((Verdict.of (sampleRecorded ["TestA", "TestB"])).passed = true ∧
      (sampleRecording ["TestA", "TestB"]).passed = sampleFailures.failed) := by
  have hlost : RunResult.hasTerminatedTests sampleFailures (sampleRecording ["TestB"]) = true :=
    by decide
  have hpassed : (Verdict.of (sampleRecorded ["TestA", "TestB"])).passed = true := by
    decide
  refine ⟨⟨hlost, ?_⟩, hpassed, ?_⟩
  · exact (terminatedTests_exact (by decide)).1.1 hlost
  · exact (terminatedTests_exact (by decide)).2 _ rfl rfl (by decide) hpassed

end CassetteGate
