import CassetteGate.Proofs.Results.WorstReport
import CassetteGate.TestLog

/-!
# `Proofs.TestLog` — which lines of a log count against it

A log is read line by line, and what a line says depends on how it starts. A test failed in a log if
some line reports that, whatever other lines report about the same test: the worst report counts
(`worstOf_reports`). So whether anything failed, and whether the provider crashed, is a question about
single lines, and neither their order nor their number matters.

## Contents
- **`IsReport`**, **`IsFailLine`**, **`IsPanicLine`**: the lines that count.
- **`report?_eq_some_iff`**, **`panic?_isSome_iff`**: reading them.
- **`IsTestName`**: the names of tests.
- **`worstOf_reports`**, **`failed_isEmpty_parse_iff`**, **`crashed_parse_iff`**: what a whole log adds up to.
-/

namespace CassetteGate

namespace RunResult

theorem crashed_eq_false_iff {r : RunResult} : r.crashed = false ↔ r.panics = [] := by
  unfold crashed
  rw [Bool.not_eq_false', List.isEmpty_iff]

end RunResult

namespace TestLog

open Text

variable {line cs : List Char} {log name : String}

/-! ## Lines -/

/-- What a line that reports an outcome starts with. -/
def lead : TestOutcome → String
  | .pass => "--- PASS: "
  | .fail => "--- FAIL: "
  | .skip => "--- SKIP: "

/-- A line, not indented, that reports an outcome of an acceptance test: its name is the stem and at
    least one more word character, as many as there are. -/
def IsReport (line : List Char) (outcome : TestOutcome) (name : String) : Prop :=
  ∃ word tail, word ≠ [] ∧ line = (lead outcome).toList ++ (acceptanceStem ++ (word ++ tail)) ∧
    name = String.ofList (acceptanceStem ++ word) ∧ (∀ c ∈ word, isWord c = true) ∧
    ∀ c ∈ tail.head?, isWord c = false

/-- A line, not indented, that reports an acceptance test as failed: its name is the stem and at least
    one more word character. -/
def IsFailLine (line : List Char) : Prop :=
  ∃ c rest, isWord c = true ∧ line = "--- FAIL: TestAcc".toList ++ c :: rest

/-- A line, not indented, that announces a panic. -/
def IsPanicLine (line : List Char) : Prop := ∃ rest, line = "panic: ".toList ++ rest

/-- A name is the stem and a word behind it, which goes on as far as word characters do. -/
theorem testName?_eq_some_iff {found tail : List Char} :
    testName? cs = some (found, tail) ↔
      ∃ word, word ≠ [] ∧ found = acceptanceStem ++ word ∧ cs = acceptanceStem ++ (word ++ tail) ∧
        (∀ c ∈ word, isWord c = true) ∧ ∀ c ∈ tail.head?, isWord c = false := by
  unfold testName?
  constructor
  · intro h
    cases hafter : after? acceptanceStem cs with
    | none =>
        rw [hafter] at h
        cases h
    | some behind =>
        simp only [hafter] at h
        split at h
        · cases h
        · next hword =>
            obtain ⟨rfl, rfl⟩ := Prod.mk.inj (Option.some.inj h)
            obtain ⟨hbehind, hall, hend⟩ := wordRun_eq_iff.1 (Prod.eta (wordRun behind)).symm
            refine ⟨_, by simpa using hword, rfl, ?_, hall, hend⟩
            rw [after?_eq_some_iff.1 hafter, ← hbehind]
  · rintro ⟨word, hword, rfl, rfl, hall, hend⟩
    have hrun : wordRun (word ++ tail) = (word, tail) := wordRun_eq_iff.2 ⟨rfl, hall, hend⟩
    have hsome : ¬ word.isEmpty = true := by simpa using hword
    simp only [after?_append, hrun, if_neg hsome]

theorem mem_reportLeads_iff {start : List Char} {outcome : TestOutcome} :
    (start, outcome) ∈ reportLeads ↔ start = (lead outcome).toList := by
  cases outcome <;> simp [reportLeads, lead]

/-- No two leads begin a line together. -/
theorem after?_lead_of_ne {o outcome : TestOutcome} (h : o ≠ outcome) (cs : List Char) :
    after? (lead o).toList ((lead outcome).toList ++ cs) = none := by
  cases o <;> cases outcome <;> first | exact absurd rfl h | simp [lead, after?]

/-- What follows the lead of an outcome settles what the line reports. -/
theorem report?_lead_append (outcome : TestOutcome) (cs : List Char) :
    report? ((lead outcome).toList ++ cs) =
      (testName? cs).map fun found => (outcome, String.ofList found.1) := by
  have hleads : reportLeads = [.pass, .fail, .skip].map fun o => ((lead o).toList, o) := rfl
  unfold report?
  rw [hleads]
  cases outcome <;>
    simp only [List.map_cons, List.map_nil, List.findSome?_cons, List.findSome?_nil, after?_append,
      after?_lead_of_ne, ne_eq, reduceCtorEq, not_false_eq_true] <;>
    cases testName? cs <;> rfl

/-- **A line reports an outcome of a test exactly if it is the line of such a report.** -/
theorem report?_eq_some_iff {outcome : TestOutcome} :
    report? line = some (outcome, name) ↔ IsReport line outcome name := by
  constructor
  · intro h
    obtain ⟨⟨start, o⟩, hstart, hmade⟩ := List.exists_of_findSome?_eq_some h
    obtain rfl := mem_reportLeads_iff.1 hstart
    cases hafter : after? (lead o).toList line with
    | none =>
        simp only [hafter] at hmade
        cases hmade
    | some rest =>
        simp only [hafter] at hmade
        obtain ⟨⟨found, tail⟩, hfound, heq⟩ := Option.map_eq_some_iff.1 hmade
        obtain ⟨rfl, rfl⟩ := Prod.mk.inj heq
        obtain ⟨word, hword, rfl, rfl, hall, hend⟩ := testName?_eq_some_iff.1 hfound
        exact ⟨word, tail, hword, after?_eq_some_iff.1 hafter, rfl, hall, hend⟩
  · rintro ⟨word, tail, hword, rfl, rfl, hall, hend⟩
    have hfound := testName?_eq_some_iff.2 ⟨word, hword, rfl, rfl, hall, hend⟩
    rw [report?_lead_append, hfound]
    rfl

/-- A line is one of a failure exactly if it reports a failure of some test. -/
theorem isFailLine_iff : IsFailLine line ↔ ∃ name, IsReport line .fail name := by
  have hstem : "--- FAIL: TestAcc".toList = (lead .fail).toList ++ acceptanceStem := by decide
  unfold IsFailLine
  rw [hstem]
  constructor
  · rintro ⟨c, rest, hc, rfl⟩
    -- the run of word characters begins with the one that is there
    refine ⟨_, c :: (wordRun rest).1, (wordRun rest).2, List.cons_ne_nil _ _, ?_, rfl, ?_, ?_⟩
    · rw [List.append_assoc, List.cons_append, wordRun_append]
    · exact List.forall_mem_cons.2 ⟨hc, fun d hd => isWord_of_mem_wordRun hd⟩
    · exact (wordRun_eq_iff.1 rfl).2.2
  · rintro ⟨name, word, tail, hword, rfl, -, hall, -⟩
    obtain ⟨c, rest, rfl⟩ := List.exists_cons_of_ne_nil hword
    refine ⟨c, rest ++ tail, hall c List.mem_cons_self, ?_⟩
    rw [List.append_assoc, List.cons_append]

theorem panic?_isSome_iff : (panic? line).isSome = true ↔ IsPanicLine line := by
  unfold panic? IsPanicLine
  rw [Option.isSome_map, Option.isSome_iff_exists]
  exact exists_congr fun rest => after?_eq_some_iff

/-! ## Logs -/

/-- Of each test, a log says the worst that one of its lines reports. -/
theorem worstOf_reports (log : String) :
    (parse log).WorstOf fun outcome name => (outcome, name) ∈ reports log.toList := by
  have hsets := RunResult.worstOf_empty.foldl_record (reports log.toList)
  apply (hsets.withPanics (panics log.toList)).congr
  intro outcome name
  exact or_iff_right id

theorem mem_failed_parse_iff : name ∈ (parse log).failed ↔ (.fail, name) ∈ reports log.toList :=
  (worstOf_reports log).failed name

/-- The name is the stem of all acceptance tests with word characters behind it. -/
def IsTestName (name : String) : Prop :=
  ∃ word, name.toList = acceptanceStem ++ word ∧ ∀ c ∈ word, isWord c = true

/-- **No test failed in a log exactly if no line reports a failure.** -/
theorem failed_isEmpty_parse_iff :
    (parse log).failed.isEmpty = true ↔ ∀ line ∈ splitLines log.toList, ¬ IsFailLine line := by
  rw [NameSet.isEmpty_iff]
  constructor
  · intro hnone line hline hfail
    obtain ⟨name, hname⟩ := isFailLine_iff.1 hfail
    have hreport := report?_eq_some_iff.2 hname
    exact hnone name (mem_failed_parse_iff.2 (List.mem_filterMap.2 ⟨line, hline, hreport⟩))
  · intro hnone name hmem
    obtain ⟨line, hline, hname⟩ := List.mem_filterMap.1 (mem_failed_parse_iff.1 hmem)
    exact hnone line hline (isFailLine_iff.2 ⟨name, report?_eq_some_iff.1 hname⟩)

/-- **The provider did not crash exactly if no line announces a panic.** -/
theorem crashed_parse_iff :
    (parse log).crashed = false ↔ ∀ line ∈ splitLines log.toList, ¬ IsPanicLine line := by
  rw [RunResult.crashed_eq_false_iff]
  show (splitLines log.toList).filterMap panic? = [] ↔ _
  rw [List.filterMap_eq_nil_iff]
  refine forall₂_congr fun line _ => ?_
  rw [← panic?_isSome_iff, Option.not_isSome_iff_eq_none]

end TestLog

end CassetteGate
