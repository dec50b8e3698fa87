import CassetteGate.NameSet

/-!
# `Results.Basic` — the outcome of a run, test by test

A run reports tests as passed, failed or skipped, some of them more than once: a retried test, or
one test run by several workers. The worst report counts: a failure beats a pass, and a pass beats
a skip.

## Contents
- **`TestOutcome`** and **`RunResult`**: three sets of names and the panics of the process.
- **`record`**, **`recordAll`**: one more report, and many.
- **`absorb`**, **`merge`**: the reports of two results, and of a list of them.
- `mem_failed_record` and its neighbours: what a report does to each of the sets.
-/

namespace CassetteGate

/-- How a test ended. -/
inductive TestOutcome where
  /-- It succeeded. -/
  | pass
  /-- It failed. -/
  | fail
  /-- It was not run. -/
  | skip
  deriving DecidableEq, Inhabited

/-- The classified outcome of a run. -/
structure RunResult where
  /-- Tests that passed and never failed. -/
  passed : NameSet
  /-- Tests that failed at least once. -/
  failed : NameSet
  /-- Tests that were only ever skipped. -/
  skipped : NameSet
  /-- The panic lines of the process; any of them means that the provider crashed. -/
  panics : List String
  deriving DecidableEq

namespace RunResult

/-- The result of a run that reported nothing. -/
def empty : RunResult := ⟨.empty, .empty, .empty, []⟩

instance : Inhabited RunResult := ⟨empty⟩

/-- Takes one more report into account. -/
def record (r : RunResult) (outcome : TestOutcome) (name : String) : RunResult :=
  match outcome with
  | .fail =>
      { r with
        passed := r.passed.erase name
        failed := r.failed.insert name
        skipped := r.skipped.erase name }
  | .pass =>
      if r.failed.contains name then r
      else { r with passed := r.passed.insert name, skipped := r.skipped.erase name }
  | .skip =>
      if r.failed.contains name || r.passed.contains name then r
      else { r with skipped := r.skipped.insert name }

/-- Takes a report of the same outcome for each of `names` into account. -/
def recordAll (r : RunResult) (outcome : TestOutcome) (names : List String) : RunResult :=
  names.foldl (fun acc name => acc.record outcome name) r

/-- The result with one more panic line. -/
def addPanic (r : RunResult) (line : String) : RunResult :=
  { r with panics := r.panics ++ [line] }

/-- The result with the reports and the panics of another one added. -/
def absorb (r other : RunResult) : RunResult :=
  let reports := ((r.recordAll .skip other.skipped.toList).recordAll .pass
    other.passed.toList).recordAll .fail other.failed.toList
  { reports with panics := r.panics ++ other.panics }

/-- All results taken together. -/
def merge (results : List RunResult) : RunResult := results.foldl absorb empty

/-- How many tests were reported. -/
def total (r : RunResult) : Nat := r.passed.size + r.failed.size + r.skipped.size

/-- Whether the provider crashed. -/
def crashed (r : RunResult) : Bool := !r.panics.isEmpty

/-- Whether a test was reported at all. -/
def mentions (r : RunResult) (name : String) : Bool :=
  r.passed.contains name || r.failed.contains name || r.skipped.contains name

/-- Whether recording accounted for fewer tests than replay handed it, so that some worker died
    without a report. -/
def hasTerminatedTests (replay record : RunResult) : Bool :=
  record.passed.size + record.failed.size < replay.failed.size

/-! ## What a report does to the sets -/

@[simp] theorem panics_record (r : RunResult) (o : TestOutcome) (n : String) :
    (r.record o n).panics = r.panics := by
  cases o <;> simp only [record] <;> split <;> rfl

theorem mem_failed_record {r : RunResult} {o : TestOutcome} {n x : String} :
    x ∈ (r.record o n).failed ↔ (o = .fail ∧ x = n) ∨ x ∈ r.failed := by
  cases o
  · simp only [record]
    split <;> simp
  · simp [record]
  · simp only [record]
    split <;> simp

theorem mem_passed_record {r : RunResult} {o : TestOutcome} {n x : String} :
    x ∈ (r.record o n).passed ↔
      match o with
      | .fail => x ∈ r.passed ∧ x ≠ n
      | .pass => (x = n ∧ n ∉ r.failed) ∨ x ∈ r.passed
      | .skip => x ∈ r.passed := by
  cases o
  · simp only [record]
    split
    · next h =>
        rw [NameSet.contains_iff] at h
        simp [h]
    · next h =>
        rw [NameSet.contains_iff] at h
        simp [h]
  · simp [record]
  · simp only [record]
    split <;> simp

theorem mem_skipped_record {r : RunResult} {o : TestOutcome} {n x : String} :
    x ∈ (r.record o n).skipped ↔
      match o with
      | .fail => x ∈ r.skipped ∧ x ≠ n
      | .pass => x ∈ r.skipped ∧ (n ∈ r.failed ∨ x ≠ n)
      | .skip => (x = n ∧ n ∉ r.failed ∧ n ∉ r.passed) ∨ x ∈ r.skipped := by
  cases o
  · simp only [record]
    split
    · next h =>
        rw [NameSet.contains_iff] at h
        simp [h]
    · next h =>
        rw [NameSet.contains_iff] at h
        simp [h]
  · simp [record]
  · simp only [record]
    split
    · next h =>
        simp only [Bool.or_eq_true, NameSet.contains_iff] at h
        constructor
        · exact .inr
        · rintro (⟨rfl, hf, hp⟩ | hs)
          · exact (h.elim hf hp).elim
          · exact hs
    · next h =>
        simp only [Bool.or_eq_true, NameSet.contains_iff, not_or] at h
        simp [h.1, h.2]

end RunResult

end CassetteGate
