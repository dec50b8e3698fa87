import CassetteGate.AddedTests
import CassetteGate.Proofs.LogGrammar

/-!
# `Proofs.AddedTests` — which added tests a replay did not exercise

Two texts are read for the names of tests, a diff and the log of a replay, and what is found in the one
is taken away from what is found in the other. That works because both readers cut a name at the same
place: the stem and the word characters behind it, as far as they go. A declaration in a diff goes on
with a bracket behind the name and a report in a log goes on with a blank, neither of which is a word
character, so a name ends there in both (`testName?_name_append`).

## Contents
- **`IsTest`**, `testName?_name_append`, `isTest_of_testName?`: the names of tests.
- **`IsDeclaration`**, `declaredTest?_eq_some_iff`, **`Adds`**, `mem_addedTests_iff`: diffs.
- **`IsUnexercised`**, `IsUnexercised.unique`: the added tests that a result does not vouch for.
- **`mem_beta_parse_iff`**, and **`unexercised_exact`**: the same for the log of a replay.
-/

namespace CassetteGate

open Text TestLog

variable {line tail : List Char} {name diff ga beta log : String} {replay : RunResult}

/-! ## The names of tests -/

/-- The name is the stem of all acceptance tests and at least one word character. -/
def IsTest (name : String) : Prop :=
  ∃ word, word ≠ [] ∧ name.toList = acceptanceStem ++ word ∧ ∀ c ∈ word, isWord c = true

theorem IsTest.isTestName (h : IsTest name) : IsTestName name := by
  obtain ⟨word, -, hname, hall⟩ := h
  exact ⟨word, hname, hall⟩

/-- A name that is read is one. -/
theorem isTest_of_testName? {cs found : List Char} (h : testName? cs = some (found, tail)) :
    IsTest (String.ofList found) := by
  obtain ⟨word, hword, rfl, -, hall, -⟩ := testName?_eq_some_iff.1 h
  exact ⟨word, hword, String.toList_ofList, hall⟩

/-- A name is read in full where no word character follows. -/
theorem testName?_name_append (h : IsTest name) (hend : ∀ c ∈ tail.head?, isWord c = false) :
    testName? (name.toList ++ tail) = some (name.toList, tail) := by
  obtain ⟨word, hword, hname, hall⟩ := h
  refine testName?_eq_some_iff.2 ⟨word, hword, hname, ?_, hall, hend⟩
  rw [hname, List.append_assoc]

/-- A line that starts with the lead of an outcome, the name of a test and a blank reports it. -/
theorem isReport_of_name {outcome : TestOutcome} (h : IsTest name) :
    IsReport ((lead outcome).toList ++ (name.toList ++ ' ' :: tail)) outcome name := by
  have hblank : ∀ c ∈ (' ' :: tail).head?, isWord c = false := by
    intro c hc
    obtain rfl : ' ' = c := Option.some.inj hc
    decide
  apply report?_eq_some_iff.1
  rw [report?_lead_append, testName?_name_append h hblank, Option.map_some, String.ofList_toList]

/-! ## Diffs -/

/-- A line of a diff that adds the declaration of a test's function: it is not indented, and not
    commented out. -/
def IsDeclaration (line : List Char) (name : String) : Prop :=
  IsTest name ∧
    ∃ rest, line = "+func ".toList ++ (name.toList ++ ("(t *testing.T) \x7b".toList ++ rest))

/-- **A line is read as the declaration of a test exactly if it is one.** -/
theorem declaredTest?_eq_some_iff : declaredTest? line = some name ↔ IsDeclaration line name := by
  unfold declaredTest?
  constructor
  · intro h
    cases hafter : after? "+func ".toList line with
    | none =>
        rw [hafter] at h
        cases h
    | some behind =>
        simp only [hafter] at h
        cases hfound : testName? behind with
        | none =>
            rw [hfound] at h
            cases h
        | some found =>
            obtain ⟨found, rest⟩ := found
            simp only [hfound] at h
            obtain ⟨body, hbody, rfl⟩ := Option.map_eq_some_iff.1 h
            have hname : (String.ofList found).toList = found := String.toList_ofList
            refine ⟨isTest_of_testName? hfound, body, ?_⟩
            rw [after?_eq_some_iff.1 hafter, eq_append_of_testName? hfound,
              after?_eq_some_iff.1 hbody, hname]
  · rintro ⟨htest, rest, rfl⟩
    have hbracket : ∀ c ∈ ("(t *testing.T) \x7b".toList ++ rest).head?, isWord c = false := by
      intro c hc
      obtain rfl : '(' = c := Option.some.inj hc
      exact isWord_openParen
    simp only [after?_append, testName?_name_append htest hbracket, Option.map_some,
      String.ofList_toList]

/-- A diff adds a test. -/
def Adds (diff name : String) : Prop := ∃ line ∈ splitLines diff.toList, IsDeclaration line name

theorem mem_addedTests_iff : name ∈ addedTests diff ↔ Adds diff name := by
  unfold addedTests Adds
  rw [NameSet.mem_ofList, List.mem_filterMap]
  simp only [declaredTest?_eq_some_iff]

theorem Adds.isTest (h : Adds diff name) : IsTest name := by
  obtain ⟨line, -, htest, -⟩ := h
  exact htest

/-! ## What a replay left out -/

namespace UnexercisedTests

/-- What two diffs add and a result does not vouch for, in ascending order: of the beta provider, the
    tests that neither passed nor failed, and of the other, those that the beta provider does not
    get. -/
structure IsUnexercised (ga beta : String) (replay : RunResult) (t : UnexercisedTests) : Prop where
  beta_ascending : t.beta.Pairwise (· < ·)
  mem_beta : ∀ name, name ∈ t.beta ↔ Adds beta name ∧ name ∉ replay.passed ∧ name ∉ replay.failed
  ga_ascending : t.ga.Pairwise (· < ·)
  mem_ga : ∀ name, name ∈ t.ga ↔ Adds ga name ∧ ¬ Adds beta name

theorem mem_beta_of_iff :
    name ∈ (of ga beta replay).beta ↔
      Adds beta name ∧ name ∉ replay.passed ∧ name ∉ replay.failed := by
  show name ∈ (addedTests beta).filter _ ↔ _
  rw [NameSet.mem_filter, mem_addedTests_iff, Bool.and_eq_true, Bool.not_eq_true',
    Bool.not_eq_true', ← Bool.not_eq_true, ← Bool.not_eq_true, NameSet.contains_iff,
    NameSet.contains_iff]

theorem mem_ga_of_iff : name ∈ (of ga beta replay).ga ↔ Adds ga name ∧ ¬ Adds beta name := by
  show name ∈ (addedTests ga).filter _ ↔ _
  rw [NameSet.mem_filter, mem_addedTests_iff, Bool.not_eq_true', ← Bool.not_eq_true,
    NameSet.contains_iff, mem_addedTests_iff]

theorem isUnexercised_of (ga beta : String) (replay : RunResult) :
    IsUnexercised ga beta replay (of ga beta replay) where
  beta_ascending := ((addedTests beta).filter _).ascending
  mem_beta _ := mem_beta_of_iff
  ga_ascending := ((addedTests ga).filter _).ascending
  mem_ga _ := mem_ga_of_iff

/-- Ascending lists with the same members are equal. -/
theorem eq_of_ascending {l l' : List String} (h : l.Pairwise (· < ·)) (h' : l'.Pairwise (· < ·))
    (hmem : ∀ name, name ∈ l ↔ name ∈ l') : l = l' :=
  congrArg NameSet.toList (NameSet.ext hmem : (⟨l, h⟩ : NameSet) = ⟨l', h'⟩)

/-- The description leaves no choice. -/
theorem IsUnexercised.unique {t t' : UnexercisedTests} (h : IsUnexercised ga beta replay t)
    (h' : IsUnexercised ga beta replay t') : t = t' := by
  have hbeta : t.beta = t'.beta := by
    apply eq_of_ascending h.beta_ascending h'.beta_ascending
    intro name
    rw [h.mem_beta, h'.mem_beta]
  have hga : t.ga = t'.ga := by
    apply eq_of_ascending h.ga_ascending h'.ga_ascending
    intro name
    rw [h.mem_ga, h'.mem_ga]
  cases t
  cases t'
  rw [mk.injEq]
  exact ⟨hbeta, hga⟩

/-! ## Logs of replays -/

/-- **A test that is added to the beta provider is listed exactly if the log reports nothing about it,
    or nothing but that it was skipped.** -/
theorem mem_beta_parse_iff :
    name ∈ (of ga beta (parse log)).beta ↔
      Adds beta name ∧ ∀ outcome, Reported log outcome name → outcome = .skip := by
  rw [mem_beta_of_iff, ← not_or, (worstOf_parse log).passed_or_failed_iff]
  refine and_congr_right fun _ => ?_
  constructor
  · intro hnone outcome hreported
    cases outcome with
    | pass => exact absurd (Or.inl hreported) hnone
    | fail => exact absurd (Or.inr hreported) hnone
    | skip => rfl
  · rintro hskipped (hpass | hfail)
    · exact absurd (hskipped .pass hpass) (by decide)
    · exact absurd (hskipped .fail hfail) (by decide)

/-- **The added tests that a replay did not exercise.** Both diffs are read for exactly the declarations
    that they add, the two lists are what the description says and nothing else, and no test is in both.
    If the result is the one of a log, a line that says how a test ended keeps it out of the first list,
    and without such a line the test is in it. -/
theorem unexercised_exact :
    (∀ diff name, name ∈ addedTests diff ↔ Adds diff name) ∧
    (∀ ga beta replay t, t = of ga beta replay ↔ IsUnexercised ga beta replay t) ∧
    (∀ ga beta replay, (of ga beta replay).beta.Disjoint (of ga beta replay).ga) ∧
    (∀ ga beta log name outcome rest, outcome ≠ .skip →
      (lead outcome ++ name ++ " (").toList ++ rest ∈ splitLines log.toList →
      name ∉ (of ga beta (parse log)).beta) ∧
    ∀ ga beta log name, Adds beta name →
      (∀ outcome, Reported log outcome name → outcome = .skip) →
      name ∈ (of ga beta (parse log)).beta := by
  refine ⟨?_, ?_, ?_, ?_, ?_⟩
  · intro diff name
    exact mem_addedTests_iff
  · intro ga beta replay t
    constructor
    · rintro rfl
      exact isUnexercised_of ga beta replay
    · intro h
      exact h.unique (isUnexercised_of ga beta replay)
  · intro ga beta replay name hbeta hga
    exact (mem_ga_of_iff.1 hga).2 (mem_beta_of_iff.1 hbeta).1
  · intro ga beta log name outcome rest hends hline hmem
    obtain ⟨hadds, hskipped⟩ := mem_beta_parse_iff.1 hmem
    rw [String.toList_append, String.toList_append, List.append_assoc, List.append_assoc] at hline
    have hreport : Reported log outcome name := ⟨_, hline, isReport_of_name hadds.isTest⟩
    exact hends (hskipped outcome hreport)
  · intro ga beta log name hadds hskipped
    exact mem_beta_parse_iff.2 ⟨hadds, hskipped⟩

/-- A change that adds two tests to the beta provider. -/
def sampleDiff : String :=
  "+func TestAccRun(t *testing.T) \x7b\n+func TestAccIdle(t *testing.T) \x7b\n"

/-- A replay that ran one of them and skipped the other. -/
def sampleReplayLog : String := "--- SKIP: TestAccIdle (0.0s)\n--- PASS: TestAccRun (1.2s)\n"

theorem reports_sampleReplayLog :
    reports sampleReplayLog.toList = [(.skip, "TestAccIdle"), (.pass, "TestAccRun")] := by
  decide +kernel

theorem unexercised_exact_sample :
    "TestAccRun" ∉ (of "" sampleDiff (parse sampleReplayLog)).beta ∧
    "TestAccIdle" ∈ (of "" sampleDiff (parse sampleReplayLog)).beta := by
  obtain ⟨hread, -, -, hends, hskips⟩ := unexercised_exact
  have hline : (lead .pass ++ "TestAccRun" ++ " (").toList ++ "1.2s)".toList ∈
      splitLines sampleReplayLog.toList := by decide +kernel
  have hadds : Adds sampleDiff "TestAccIdle" := (hread _ _).1 (by decide +kernel)
  have hskipped : ∀ outcome, Reported sampleReplayLog outcome "TestAccIdle" → outcome = .skip := by
    intro outcome hreported
    have hmem := mem_reports_iff.2 hreported
    rw [reports_sampleReplayLog] at hmem
    simpa using hmem
  constructor
  · exact hends _ _ _ _ .pass _ (by decide) hline
  · exact hskips _ _ _ _ hadds hskipped

end UnexercisedTests

end CassetteGate
