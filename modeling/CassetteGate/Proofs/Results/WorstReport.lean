import CassetteGate.Results.Basic
import Mathlib.Data.Set.Card

/-!
# `Proofs.Results.WorstReport` — the worst report of each test counts

A result sorts tests by the worst outcome that was ever reported of them. This is an invariant of
taking reports into account: if the sets of a result are right for the reports so far, they are right
with one more report. So they are right in the end, in whatever order the reports came and however
often each of them was made.

## Contents
- **`WorstOf`**: the invariant; `worstOf_empty`, **`WorstOf.record`**, **`WorstOf.foldl_record`**,
  `WorstOf.withPanics`.
- **`WorstOf.sets_eq`**, `WorstOf.unique`: a result is settled by its reports and its panics.
- **`Disjoint`**, `WorstOf.disjoint`: no test has two outcomes.
- **`WorstOf.total_eq`**: every reported test is counted once.
-/

namespace CassetteGate.RunResult

/-! ## The invariant -/

/-- Each test stands under the worst outcome that is reported of it, and under no other. -/
structure WorstOf (reported : TestOutcome → String → Prop) (r : RunResult) : Prop where
  failed : ∀ name, name ∈ r.failed ↔ reported .fail name
  passed : ∀ name, name ∈ r.passed ↔ reported .pass name ∧ ¬ reported .fail name
  skipped : ∀ name, name ∈ r.skipped ↔
    reported .skip name ∧ ¬ reported .pass name ∧ ¬ reported .fail name

variable {reported other : TestOutcome → String → Prop} {r r' : RunResult}

theorem worstOf_empty : WorstOf (fun _ _ => False) empty where
  failed name := iff_of_false (NameSet.notMem_empty name) id
  passed name := iff_of_false (NameSet.notMem_empty name) And.left
  skipped name := iff_of_false (NameSet.notMem_empty name) And.left

namespace WorstOf

theorem congr (h : WorstOf reported r) (heq : ∀ o n, reported o n ↔ other o n) :
    WorstOf other r where
  failed n := by rw [h.failed, heq]
  passed n := by rw [h.passed, heq, heq]
  skipped n := by rw [h.skipped, heq, heq, heq]

/-- One more report keeps each test under the worst outcome. -/
theorem record (h : WorstOf reported r) (outcome : TestOutcome) (name : String) :
    WorstOf (fun o n => reported o n ∨ (o = outcome ∧ n = name)) (r.record outcome name) where
  failed n := by
    rw [mem_failed_record, h.failed, eq_comm (a := outcome), or_comm]
  passed n := by
    rw [mem_passed_record]
    by_cases hn : n = name
    · subst hn
      cases outcome <;> simp [h.passed, h.failed]
    · cases outcome <;> simp [h.passed, hn]
  skipped n := by
    rw [mem_skipped_record]
    by_cases hn : n = name
    · subst hn
      cases outcome with
      | pass => simp [h.skipped, h.failed]
      | fail => simp
      | skip =>
          -- a test that passed or failed already stays out
          simp only [h.skipped, h.passed, h.failed, true_and, and_true]
          tauto
    · cases outcome <;> simp [h.skipped, hn]

/-- So do any number of reports. -/
theorem foldl_record (h : WorstOf reported r) (reports : List (TestOutcome × String)) :
    WorstOf (fun o n => reported o n ∨ (o, n) ∈ reports)
      (reports.foldl (fun acc e => acc.record e.1 e.2) r) := by
  -- on the reports to come, from any result that is right for those before
  induction reports generalizing r reported with
  | nil =>
      apply h.congr
      intro o n
      exact (or_iff_left List.not_mem_nil).symm
  | cons e reports ih =>
      obtain ⟨outcome, name⟩ := e
      rw [List.foldl_cons]
      apply (ih (h.record outcome name)).congr
      intro o n
      rw [List.mem_cons, Prod.mk.injEq, or_assoc]

/-- The panics come on top of the sets. -/
theorem withPanics (h : WorstOf reported r) (panics : List String) :
    WorstOf reported { r with panics := panics } :=
  ⟨h.failed, h.passed, h.skipped⟩

/-! ## What follows -/

/-- The sets of a result are settled by its reports. -/
theorem sets_eq (h : WorstOf reported r) (h' : WorstOf reported r') :
    r.passed = r'.passed ∧ r.failed = r'.failed ∧ r.skipped = r'.skipped := by
  refine ⟨?_, ?_, ?_⟩
  · ext name
    rw [h.passed, h'.passed]
  · ext name
    rw [h.failed, h'.failed]
  · ext name
    rw [h.skipped, h'.skipped]

theorem unique (h : WorstOf reported r) (h' : WorstOf reported r')
    (hpanics : r.panics = r'.panics) : r = r' := by
  obtain ⟨hpassed, hfailed, hskipped⟩ := h.sets_eq h'
  cases r
  cases r'
  simp_all

end WorstOf

/-- No test has two outcomes. -/
structure Disjoint (r : RunResult) : Prop where
  passed_failed : ∀ name ∈ r.passed, name ∉ r.failed
  passed_skipped : ∀ name ∈ r.passed, name ∉ r.skipped
  failed_skipped : ∀ name ∈ r.failed, name ∉ r.skipped

theorem WorstOf.disjoint (h : WorstOf reported r) : r.Disjoint where
  passed_failed name hpassed hfailed := ((h.passed name).1 hpassed).2 ((h.failed name).1 hfailed)
  passed_skipped name hpassed hskipped :=
    ((h.skipped name).1 hskipped).2.1 ((h.passed name).1 hpassed).1
  failed_skipped name hfailed hskipped :=
    ((h.skipped name).1 hskipped).2.2 ((h.failed name).1 hfailed)

/-- The tests of a result, without repetitions. -/
theorem Disjoint.nodup (h : r.Disjoint) :
    (r.passed.toList ++ r.failed.toList ++ r.skipped.toList).Nodup := by
  refine List.nodup_append.2 ⟨NameSet.nodup_append h.passed_failed, r.skipped.nodup, ?_⟩
  rintro name hname _ hskipped rfl
  rcases List.mem_append.1 hname with hpassed | hfailed
  · exact h.passed_skipped name hpassed hskipped
  · exact h.failed_skipped name hfailed hskipped

/-- Whatever is reported of a test, it stands somewhere. -/
theorem WorstOf.exists_iff (h : WorstOf reported r) {name : String} :
    (∃ o, reported o name) ↔ name ∈ r.passed ∨ name ∈ r.failed ∨ name ∈ r.skipped := by
  rw [h.passed, h.failed, h.skipped]
  constructor
  · rintro ⟨o, ho⟩
    cases o <;> tauto
  · rintro (⟨hpass, -⟩ | hfail | ⟨hskip, -⟩)
    · exact ⟨.pass, hpass⟩
    · exact ⟨.fail, hfail⟩
    · exact ⟨.skip, hskip⟩

/-- A test is vouched for if it is reported as passed or as failed: with reports of both kinds it
    stands under one of the two. -/
theorem WorstOf.passed_or_failed_iff (h : WorstOf reported r) {name : String} :
    name ∈ r.passed ∨ name ∈ r.failed ↔ reported .pass name ∨ reported .fail name := by
  rw [h.passed, h.failed]
  by_cases hfail : reported .fail name
  · exact iff_of_true (Or.inr hfail) (Or.inr hfail)
  · rw [and_iff_left hfail]

/-- Every test that is reported is counted, and none is counted twice. -/
theorem WorstOf.total_eq (h : WorstOf reported r) :
    r.total = {name | ∃ o, reported o name}.ncard := by
  have hlength : (r.passed.toList ++ r.failed.toList ++ r.skipped.toList).length = r.total := by
    rw [List.length_append, List.length_append]
    rfl
  have hset : {name | ∃ o, reported o name} =
      ((r.passed.toList ++ r.failed.toList ++ r.skipped.toList).toFinset : Set String) := by
    ext name
    rw [List.coe_toFinset, Set.mem_ofPred_eq, Set.mem_ofPred_eq, List.mem_append, List.mem_append,
      or_assoc]
    exact h.exists_iff
  rw [hset, Set.ncard_coe_finset, List.toFinset_card_of_nodup h.disjoint.nodup, hlength]

end CassetteGate.RunResult
