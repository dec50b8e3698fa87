import CassetteGate.Verdict

/-!
# `Proofs.Verdict` — which runs pass

A verdict passes if no reason against it was found, and the reasons are collected phase by phase.
This file turns the empty list of reasons of each phase into what it says about that phase. Together:
a run passes on its replay alone if that is clean, and passes on its recording if the replay did not
crash but had failures, nothing of the recording failed or was lost, and the replay of what was
recorded is clean.

Where a recording is clean, there is always something to replay: as tests failed before and none of
them was lost or failed again, some passed (`RunState.passed_of_recordingClean`).

## Contents
- **`confirmViolations_eq_nil`**, **`recordViolations_eq_nil`**: the phases.
- **`passed_iff`**: the verdict.
- **`gate_characterised`**: the verdict in the words of the state.
-/

namespace CassetteGate

variable {s : RunState} {run replay record : PhaseRun}

/-! ## Clean phases -/

theorem PhaseRun.isClean_iff :
    run.isClean = true ↔
      run.result.failed.isEmpty = true ∧ run.result.crashed = false ∧ run.exitError = none := by
  unfold isClean
  rw [Bool.and_eq_true, Bool.and_eq_true, Bool.not_eq_true', Option.isNone_iff_eq_none, and_assoc]

theorem RunState.recordingClean_iff :
    s.recordingClean = true ↔
      ∃ record, s.record = some record ∧ record.isClean = true ∧ s.hasTerminatedTests = false := by
  unfold recordingClean
  cases s.record with
  | none => simp
  | some record => simp

/-- If a clean recording followed failures in the replay, some test passed in it. -/
theorem RunState.passed_of_recordingClean (hreplay : s.replay = some replay)
    (hf : replay.result.failed.isEmpty = false) (hrecord : s.record = some record)
    (h : s.recordingClean = true) : record.result.passed.isEmpty = false := by
  obtain ⟨record', hrecord', hclean, hlost⟩ := recordingClean_iff.1 h
  obtain rfl : record = record' := Option.some.inj (hrecord.symm.trans hrecord')
  obtain ⟨hnone, -, -⟩ := PhaseRun.isClean_iff.1 hclean
  unfold hasTerminatedTests at hlost
  rw [hreplay, hrecord] at hlost
  have hcount : replay.result.failed.size
      ≤ record.result.passed.size + record.result.failed.size := by
    simpa [RunResult.hasTerminatedTests] using hlost
  -- an empty set has size 0, so the failures of the replay are all counted as passed
  cases hp : record.result.passed.isEmpty with
  | false => rfl
  | true =>
      simp only [NameSet.size, NameSet.isEmpty, List.isEmpty_iff] at hcount hnone hp hf
      rw [hnone, hp] at hcount
      have hnil : replay.result.failed.toList = [] :=
        List.eq_nil_of_length_eq_zero (by simpa using hcount)
      rw [hnil] at hf
      cases hf

namespace Verdict

/-! ## The reasons of a phase -/

theorem confirmViolations_eq_nil {confirm : Option PhaseRun} :
    confirmViolations confirm = [] ↔ ∃ run, confirm = some run ∧ run.isClean = true := by
  cases confirm with
  | none => simp [confirmViolations]
  | some run =>
      unfold confirmViolations
      simp only [Option.some.injEq, exists_eq_left', PhaseRun.isClean_iff]
      by_cases hc : run.result.crashed = true
      · simp [hc]
      · cases he : run.exitError <;> simp [hc]

/-- Nothing speaks against a recording that is clean and replays. -/
theorem recordViolations_eq_nil {n : Nat} :
    recordViolations s n = [] ↔
      ∃ record, s.record = some record ∧ s.recordingClean = true ∧
        (record.result.passed.isEmpty = true ∨ confirmViolations s.confirm = []) := by
  cases hrecord : s.record with
  | none => simp [recordViolations, hrecord]
  | some record =>
      unfold recordViolations RunState.recordingClean
      rw [hrecord]
      simp only [Option.some.injEq, exists_eq_left', Bool.and_eq_true, Bool.not_eq_true',
        PhaseRun.isClean_iff]
      -- a crash is the only reason then; else every fault is a reason of its own
      by_cases hc : record.result.crashed = true
      · simp [hc]
      · by_cases hp : record.result.passed.isEmpty = true
        · cases he : record.exitError <;> simp [hc, hp]
        · cases he : record.exitError <;> simp [hc, hp, and_assoc]

/-! ## The verdict -/

/-- **A run passes** if its replay is clean, or if the replay only failed tests, their recording is
    clean and so is the replay of what was recorded. -/
theorem passed_iff :
    (of s).passed = true ↔
      ∃ replay, s.replay = some replay ∧
        (replay.isClean = true ∨
          (replay.result.crashed = false ∧ replay.result.failed.isEmpty = false ∧
            s.recordingClean = true ∧
            ∃ confirm, s.confirm = some confirm ∧ confirm.isClean = true)) := by
  rw [passed_of, List.isEmpty_iff]
  show violationsOf s = [] ↔ _
  unfold violationsOf
  cases hreplay : s.replay with
  | none => simp
  | some replay =>
      simp only [Option.some.injEq, exists_eq_left', @PhaseRun.isClean_iff replay]
      by_cases hc : replay.result.crashed = true
      · simp [hc]
      · by_cases hf : replay.result.failed.isEmpty = true
        · cases he : replay.exitError <;> simp [hc, hf]
        · rw [Bool.not_eq_true] at hc hf
          simp only [hc, hf, if_false, Bool.false_eq_true, false_and, false_or, true_and]
          rw [recordViolations_eq_nil, confirmViolations_eq_nil]
          -- the recording is clean, so some test passed in it and had to be replayed
          constructor
          · rintro ⟨record, hrecord, hclean, hnone | hconfirm⟩
            · have hsome := RunState.passed_of_recordingClean hreplay hf hrecord hclean
              exact absurd (hsome.symm.trans hnone) nofun
            · exact ⟨hclean, hconfirm⟩
          · rintro ⟨hclean, hconfirm⟩
            obtain ⟨record, hrecord, -, -⟩ := RunState.recordingClean_iff.1 hclean
            exact ⟨record, hrecord, hclean, Or.inr hconfirm⟩

/-- A run whose replay had failures passes by its recording and by the replay of what was recorded,
    or not at all. -/
theorem confirmed_of_passed (hreplay : s.replay = some replay)
    (hfailures : replay.result.failed.isEmpty = false) (hpassed : (of s).passed = true) :
    s.recordingClean = true ∧ ∃ confirm, s.confirm = some confirm ∧ confirm.isClean = true := by
  obtain ⟨run, hrun, hclean | ⟨-, -, hrecording, hconfirm⟩⟩ := passed_iff.1 hpassed
  · -- a clean replay has no failures
    obtain rfl : replay = run := Option.some.inj (hreplay.symm.trans hrun)
    have hnone : replay.result.failed.isEmpty = true := (PhaseRun.isClean_iff.1 hclean).1
    exact absurd (hfailures.symm.trans hnone) nofun
  · exact ⟨hrecording, hconfirm⟩

/-- **The gate in the words of the state**: which states pass, whether or not a run can reach them,
    that failures in the replay take a clean replay of what was recorded, and that a state passes if
    nothing is held against it. -/
theorem gate_characterised (s : RunState) :
    ((of s).passed = true ↔
      ∃ replay, s.replay = some replay ∧
        (replay.isClean = true ∨
          (replay.result.crashed = false ∧ (∃ test, test ∈ replay.result.failed) ∧
            s.recordingClean = true ∧
            ∃ confirm, s.confirm = some confirm ∧ confirm.isClean = true))) ∧
    (∀ replay, s.replay = some replay → (∃ test, test ∈ replay.result.failed) →
      (of s).passed = true → ∃ confirm, s.confirm = some confirm ∧ confirm.isClean = true) ∧
    ((of s).passed = true ↔ (of s).violations = []) := by
  simp only [← NameSet.isEmpty_eq_false_iff]
  refine ⟨passed_iff, ?_, ?_⟩
  · intro replay hreplay hfailures hpassed
    exact (confirmed_of_passed hreplay hfailures hpassed).2
  · rw [passed_of, List.isEmpty_iff]

/-- A state in which one test failed, was recorded and replays. -/
def sampleRepaired : RunState :=
  { RunState.start .everything with
    replay := some (.ofResult (RunResult.empty.record .fail "TestAccDisk"))
    record := some (.ofResult (RunResult.empty.record .pass "TestAccDisk"))
    confirm := some (.ofResult (RunResult.empty.record .pass "TestAccDisk")) }

theorem gate_characterised_repaired :
    (of sampleRepaired).passed = true ∧
      ∃ confirm, sampleRepaired.confirm = some confirm ∧ confirm.isClean = true := by
  have hpassed : (of sampleRepaired).passed = true := by decide
  exact ⟨hpassed, (gate_characterised sampleRepaired).2.1 _ rfl ⟨"TestAccDisk", by decide⟩ hpassed⟩

end Verdict

end CassetteGate
