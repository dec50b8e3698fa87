import CassetteGate.Proofs.Results.WorstReport
import CassetteGate.Results.Phase

/-!
# `Proofs.Results.Merged` — results taken together

Results are merged by making the reports of each of them once more, in a fixed order: first what was
skipped, then what passed, then what failed. A result that was read or decoded may have a test in
several of its sets, so nothing is assumed of the results that are merged.

The order in which the reports are made does not matter, because a merged result has each test under
the worst outcome that was reported of it, and taking in a result keeps that (`WorstOf.absorb`). So a
merged result is settled by which reports there are in all of its parts, and by the panics of the parts
in their order (`worstOf_merge`, `panics_merge`).

If the parts stand for reports of their own, as logs and groups of results do, then merging the parts
gives what all of those reports give together (`worstOf_merge_map`): a part drops only reports that
something worse in the same part outdoes.

## Contents
- **`PhaseRun.result_merge`**: the result of several phases is a merged one.
- **`having`**, **`asReports`**: the reports that a result stands for.
- **`absorb_eq`**, **`WorstOf.absorb`**: one result taken in.
- **`AnyHas`**, **`worstOf_merge`**, **`panics_merge`**: any number of them.
- **`worstOf_merge_map`**, `merge_flatten`, `merge_append`: results of parts.
- **`merge_worst`**: what a merged result is, and what it does not depend on.
-/

namespace CassetteGate

/-- The result of several runs is merged from theirs. -/
theorem PhaseRun.result_merge (runs : List PhaseRun) :
    (merge runs).result = RunResult.merge (runs.map PhaseRun.result) := by
  unfold merge RunResult.merge
  rw [List.foldl_map]
  exact (List.foldl_hom PhaseRun.result (fun _ _ => rfl)).symm

namespace RunResult

variable {r other : RunResult} {results : List RunResult} {outcome : TestOutcome} {name : String}
  {reported : TestOutcome → String → Prop}

/-! ## A result as reports -/

/-- The tests that stand under an outcome. -/
def having (r : RunResult) : TestOutcome → NameSet
  | .pass => r.passed
  | .fail => r.failed
  | .skip => r.skipped

/-- The reports that a result stands for, in the order in which they are made once more. -/
def asReports (r : RunResult) : List (TestOutcome × String) :=
  [.skip, .pass, .fail].flatMap fun outcome => (r.having outcome).toList.map (Prod.mk outcome)

theorem mem_asReports_iff : (outcome, name) ∈ r.asReports ↔ name ∈ r.having outcome := by
  unfold asReports
  rw [List.mem_flatMap]
  constructor
  · rintro ⟨o, -, h⟩
    obtain ⟨n, hn, heq⟩ := List.mem_map.1 h
    obtain ⟨rfl, rfl⟩ := Prod.mk.inj heq
    exact hn
  · intro h
    exact ⟨outcome, by cases outcome <;> decide, List.mem_map_of_mem h⟩

theorem recordAll_eq (r : RunResult) (outcome : TestOutcome) (names : List String) :
    r.recordAll outcome names =
      (names.map (Prod.mk outcome)).foldl (fun acc e => acc.record e.1 e.2) r := by
  rw [List.foldl_map]
  rfl

/-- Taking in a result makes its reports once more; the panics come behind those that are there. -/
theorem absorb_eq (r other : RunResult) :
    r.absorb other =
      { other.asReports.foldl (fun acc e => acc.record e.1 e.2) r with
        panics := r.panics ++ other.panics } := by
  unfold absorb asReports
  simp only [recordAll_eq, List.flatMap_cons, List.flatMap_nil, List.append_nil, List.foldl_append]
  rfl

/-! ## One result taken in -/

/-- Taking in a result keeps each test under the worst outcome, whatever sets the result has. -/
theorem WorstOf.absorb (h : WorstOf reported r) (other : RunResult) :
    WorstOf (fun o n => reported o n ∨ n ∈ other.having o) (r.absorb other) := by
  have hreports := (h.foldl_record other.asReports).withPanics (r.panics ++ other.panics)
  rw [absorb_eq]
  apply hreports.congr
  intro o n
  rw [mem_asReports_iff]

/-! ## Any number of results -/

/-- Some of the results has the test under an outcome. -/
def AnyHas (results : List RunResult) (outcome : TestOutcome) (name : String) : Prop :=
  ∃ r ∈ results, name ∈ r.having outcome

theorem anyHas_map {α : Type} {parts : List α} {resultOf : α → RunResult} :
    AnyHas (parts.map resultOf) outcome name ↔
      ∃ part ∈ parts, name ∈ (resultOf part).having outcome := by
  unfold AnyHas
  simp only [List.mem_map, exists_exists_and_eq_and]

theorem WorstOf.foldl_absorb (h : WorstOf reported r) (results : List RunResult) :
    WorstOf (fun o n => reported o n ∨ AnyHas results o n)
      (results.foldl RunResult.absorb r) := by
  -- on the results to come, from any result that is right for those before
  induction results generalizing r reported with
  | nil =>
      apply h.congr
      intro o n
      exact (or_iff_left fun ⟨_, hmem, _⟩ => List.not_mem_nil hmem).symm
  | cons part results ih =>
      rw [List.foldl_cons]
      apply (ih (h.absorb part)).congr
      intro o n
      unfold AnyHas
      rw [List.exists_mem_cons_iff, or_assoc]

/-- **A merged result has each test under the worst outcome that any of its parts has it under.** -/
theorem worstOf_merge (results : List RunResult) : (merge results).WorstOf (AnyHas results) := by
  apply (worstOf_empty.foldl_absorb results).congr
  intro o n
  exact or_iff_right id

theorem panics_foldl_absorb (r : RunResult) (results : List RunResult) :
    (results.foldl absorb r).panics = r.panics ++ results.flatMap panics := by
  induction results generalizing r with
  | nil => exact (List.append_nil r.panics).symm
  | cons part results ih =>
      rw [List.foldl_cons, ih, List.flatMap_cons, ← List.append_assoc]
      rfl

/-- The panics of a merged result are those of its parts, in order. -/
theorem panics_merge (results : List RunResult) :
    (merge results).panics = results.flatMap panics :=
  panics_foldl_absorb empty results

/-! ## Results of parts -/

/-- **Merging what each part adds up to gives what the reports of all parts add up to.** -/
theorem worstOf_merge_map {α : Type} {parts : List α} {resultOf : α → RunResult}
    {reportedBy : α → TestOutcome → String → Prop}
    (h : ∀ part ∈ parts, (resultOf part).WorstOf (reportedBy part)) :
    (merge (parts.map resultOf)).WorstOf fun o n => ∃ part ∈ parts, reportedBy part o n := by
  have hmerge := worstOf_merge (parts.map resultOf)
  have hfail (n : String) :
      AnyHas (parts.map resultOf) .fail n ↔ ∃ part ∈ parts, reportedBy part .fail n := by
    rw [anyHas_map]
    exact exists_congr fun part => and_congr_right fun hpart => (h part hpart).failed n
  -- where nothing failed, no part drops a pass, and where nothing passed either, none drops a skip
  have hpass (n : String) (hnot : ¬ ∃ part ∈ parts, reportedBy part .fail n) :
      AnyHas (parts.map resultOf) .pass n ↔ ∃ part ∈ parts, reportedBy part .pass n := by
    rw [anyHas_map]
    refine exists_congr fun part => and_congr_right fun hpart => ?_
    exact ((h part hpart).passed n).trans (and_iff_left fun hf => hnot ⟨part, hpart, hf⟩)
  have hskip (n : String) (hnot : ¬ ∃ part ∈ parts, reportedBy part .fail n)
      (hnone : ¬ ∃ part ∈ parts, reportedBy part .pass n) :
      AnyHas (parts.map resultOf) .skip n ↔ ∃ part ∈ parts, reportedBy part .skip n := by
    rw [anyHas_map]
    refine exists_congr fun part => and_congr_right fun hpart => ?_
    exact ((h part hpart).skipped n).trans
      (and_iff_left ⟨fun hp => hnone ⟨part, hpart, hp⟩, fun hf => hnot ⟨part, hpart, hf⟩⟩)
  constructor
  case failed =>
    intro n
    rw [hmerge.failed, hfail]
  case passed =>
    intro n
    rw [hmerge.passed, hfail]
    exact and_congr_left fun hnot => hpass n hnot
  case skipped =>
    intro n
    rw [hmerge.skipped, hfail]
    constructor
    · rintro ⟨hs, hp, hf⟩
      rw [hpass n hf] at hp
      exact ⟨(hskip n hf hp).1 hs, hp, hf⟩
    · rintro ⟨hs, hp, hf⟩
      exact ⟨(hskip n hf hp).2 hs, (hpass n hf).not.2 hp, hf⟩

/-- Merging group by group, and then the groups, is merging all at once. -/
theorem merge_flatten (groups : List (List RunResult)) :
    merge (groups.map merge) = merge groups.flatten := by
  have hgroups := worstOf_merge_map fun group (_ : group ∈ groups) => worstOf_merge group
  have hsame (o : TestOutcome) (n : String) :
      (∃ group ∈ groups, AnyHas group o n) ↔ AnyHas groups.flatten o n := by
    unfold AnyHas
    simp only [List.mem_flatten]
    constructor
    · rintro ⟨group, hgroup, r, hr, hn⟩
      exact ⟨r, ⟨group, hgroup, hr⟩, hn⟩
    · rintro ⟨r, ⟨group, hgroup, hr⟩, hn⟩
      exact ⟨group, hgroup, r, hr, hn⟩
  apply (hgroups.congr hsame).unique (worstOf_merge groups.flatten)
  rw [panics_merge, panics_merge, List.flatMap_map, List.flatMap_def, List.flatMap_def,
    List.map_flatten, List.flatten_flatten]
  simp only [panics_merge, List.map_map, List.flatMap_def]
  rfl

theorem merge_append (results other : List RunResult) :
    merge (results ++ other) = merge [merge results, merge other] := by
  have hgroups := merge_flatten [results, other]
  rw [List.flatten_cons, List.flatten_singleton] at hgroups
  exact hgroups.symm

/-! ## The result -/

/-- **What a merged result is**, whatever sets its parts have: each test stands under the worst outcome
    that any part has it under, no test has two outcomes, and the panics are those of the parts in
    order. So the sets depend neither on the order of the parts nor on how often one of them occurs,
    and merging in groups makes no difference at all. -/
theorem merge_worst :
    (∀ results, (merge results).WorstOf (AnyHas results) ∧ (merge results).Disjoint ∧
      (merge results).panics = results.flatMap panics) ∧
    (∀ results other : List RunResult, (∀ r, r ∈ results ↔ r ∈ other) →
      (merge results).passed = (merge other).passed ∧
        (merge results).failed = (merge other).failed ∧
        (merge results).skipped = (merge other).skipped) ∧
    (∀ groups : List (List RunResult), merge (groups.map merge) = merge groups.flatten) ∧
    ∀ results other, merge (results ++ other) = merge [merge results, merge other] := by
  refine ⟨?_, ?_, merge_flatten, merge_append⟩
  · intro results
    exact ⟨worstOf_merge results, (worstOf_merge results).disjoint, panics_merge results⟩
  · intro results other hsame
    have hother : (merge other).WorstOf (AnyHas results) := by
      apply (worstOf_merge other).congr
      intro o n
      exact exists_congr fun r => and_congr_left fun _ => (hsame r).symm
    exact (worstOf_merge results).sets_eq hother

/-- Two results, of which one has a test in all of its sets, as a decoded result may have. -/
def sampleParts : List RunResult :=
  [{ passed := .ofList ["TestAccBucket", "TestAccDisk"]
     failed := .ofList ["TestAccDisk"]
     skipped := .ofList ["TestAccBucket", "TestAccDisk", "TestAccVpn"]
     panics := ["panic: no such disk"] },
   empty.record .pass "TestAccVpn"]

/-- Merged in the opposite order, and then once more, they have the same tests under each outcome. -/
theorem merge_worst_overlap :
    (∀ r, r ∈ sampleParts ↔ r ∈ sampleParts.reverse ++ sampleParts) ∧
    (merge sampleParts).passed = .ofList ["TestAccBucket", "TestAccVpn"] ∧
    (merge sampleParts).passed = (merge (sampleParts.reverse ++ sampleParts)).passed ∧
    (merge sampleParts).failed = (merge (sampleParts.reverse ++ sampleParts)).failed ∧
    (merge sampleParts).skipped = (merge (sampleParts.reverse ++ sampleParts)).skipped := by
  have hsame : ∀ r, r ∈ sampleParts ↔ r ∈ sampleParts.reverse ++ sampleParts := by
    intro r
    rw [List.mem_append, List.mem_reverse, or_self]
  exact ⟨hsame, by decide +kernel, merge_worst.2.1 _ _ hsame⟩

end RunResult

end CassetteGate
