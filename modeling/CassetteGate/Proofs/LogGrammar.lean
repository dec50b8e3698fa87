import CassetteGate.Proofs.TestLog

/-!
# `Proofs.LogGrammar` — what a log says is what its lines say

A log is a text in a small language. Its lines end at newlines and nowhere else; a line is a report,
the start of a panic, or nothing. Both kinds of lines are described here by how they are put together,
with no regard to how they are read, and reading is proved to find exactly what the description says.

What the reports of all lines add up to is settled by which reports there are
(`RunResult.WorstOf`), so it depends neither on their order nor on their number. The panics do keep
their order.

## Contents
- **`Reported`**, `mem_reports_iff`, `IsReport.unique`: the reports of a log.
- **`IsTrimmed`**, **`panicLines`**, `panics_eq`: its panics.
- **`IsReading`**, `isReading_parse`: what a log says as a whole.
- **`parse_exact`**: a log adds up to what its lines say.
-/

namespace CassetteGate.TestLog

open Text

variable {line : List Char} {log name : String}

/-! ## Reports -/

/-- Some line of a log reports this outcome of the test. -/
def Reported (log : String) (outcome : TestOutcome) (name : String) : Prop :=
  ∃ line ∈ splitLines log.toList, IsReport line outcome name

theorem mem_reports_iff {outcome : TestOutcome} :
    (outcome, name) ∈ reports log.toList ↔ Reported log outcome name := by
  unfold reports Reported
  rw [List.mem_filterMap]
  simp only [report?_eq_some_iff]

/-- A line reports on one test at most, and one outcome of it. -/
theorem IsReport.unique {report report' : TestOutcome × String}
    (h : IsReport line report.1 report.2) (h' : IsReport line report'.1 report'.2) :
    report = report' :=
  Option.some.inj ((report?_eq_some_iff.2 h).symm.trans (report?_eq_some_iff.2 h'))

/-! ## Panics -/

/-- The text is the line without the blanks at its end. -/
def IsTrimmed (line : List Char) (text : String) : Prop :=
  (∃ blanks, line = text.toList ++ blanks ∧ ∀ b ∈ blanks, isBlank b = true) ∧
    ∀ c ∈ text.toList.getLast?, isBlank c = false

/-- The lines of a log that announce panics. -/
def panicLines (log : String) : List (List Char) :=
  (splitLines log.toList).filter ("panic: ".toList.isPrefixOf ·)

theorem isTrimmed_iff {text : String} : IsTrimmed line text ↔ text = String.ofList (trimEnd line) := by
  unfold IsTrimmed
  rw [← trimEnd_eq_iff]
  constructor
  · intro h
    rw [h, String.ofList_toList]
  · rintro rfl
    exact String.toList_ofList.symm

theorem panic?_eq (line : List Char) :
    panic? line =
      if "panic: ".toList.isPrefixOf line then some (String.ofList (trimEnd line)) else none := by
  unfold panic?
  by_cases h : "panic: ".toList.isPrefixOf line = true
  · obtain ⟨rest, rfl⟩ := List.isPrefixOf_iff_prefix.1 h
    rw [if_pos h, after?_append, Option.map_some]
  · rw [if_neg h]
    cases hafter : after? "panic: ".toList line with
    | none => rfl
    | some rest =>
        have hprefix : "panic: ".toList <+: line := ⟨rest, (after?_eq_some_iff.1 hafter).symm⟩
        exact absurd (List.isPrefixOf_iff_prefix.2 hprefix) h

theorem panics_eq (log : String) :
    panics log.toList = (panicLines log).map fun line => String.ofList (trimEnd line) := by
  unfold panics panicLines
  induction splitLines log.toList with
  | nil => rfl
  | cons line lines ih =>
      rw [List.filterMap_cons, panic?_eq, ih]
      by_cases h : "panic: ".toList.isPrefixOf line = true
      · rw [if_pos h, List.filter_cons_of_pos h, List.map_cons]
      · rw [if_neg h, List.filter_cons_of_neg h]

theorem forall₂_isTrimmed_iff {lines : List (List Char)} {texts : List String} :
    List.Forall₂ IsTrimmed lines texts ↔
      texts = lines.map fun line => String.ofList (trimEnd line) := by
  induction lines generalizing texts with
  | nil => rw [List.forall₂_nil_left_iff, List.map_nil]
  | cons line lines ih =>
      cases texts with
      | nil => exact iff_of_false nofun nofun
      | cons text texts => rw [List.forall₂_cons, isTrimmed_iff, ih, List.map_cons, List.cons.injEq]

/-! ## Logs -/

theorem worstOf_parse (log : String) : (parse log).WorstOf (Reported log) :=
  (worstOf_reports log).congr fun _ _ => mem_reports_iff

/-- What a log says: each test has the worst outcome that a line reports of it, and the panics are
    the lines that announce one, in order. -/
structure IsReading (log : String) (r : RunResult) : Prop where
  worst : r.WorstOf (Reported log)
  panics : List.Forall₂ IsTrimmed (panicLines log) r.panics

theorem isReading_parse (log : String) : IsReading log (parse log) where
  worst := worstOf_parse log
  panics := forall₂_isTrimmed_iff.2 (panics_eq log)

/-- A log can be read in one way only. -/
theorem IsReading.unique {r r' : RunResult} (h : IsReading log r) (h' : IsReading log r') : r = r' := by
  apply h.worst.unique h'.worst
  rw [forall₂_isTrimmed_iff.1 h.panics, forall₂_isTrimmed_iff.1 h'.panics]

/-- **A log adds up to what its lines say**, and to nothing else. Lines end at newlines only; a line
    makes one report at most; no test has two outcomes in the end, and every test is counted once, in
    whatever order the lines stand. -/
theorem parse_exact :
    (∀ log r, r = parse log ↔ IsReading log r) ∧
    (∀ log : String, unlines (splitLines log.toList) = log.toList ∧
      ∀ line ∈ splitLines log.toList, '\n' ∉ line) ∧
    (∀ line, {report : TestOutcome × String | IsReport line report.1 report.2}.Subsingleton) ∧
    (∀ log, (parse log).Disjoint ∧ (parse log).total = {name | ∃ o, Reported log o name}.ncard) ∧
    ∀ log other : String, (splitLines log.toList).Perm (splitLines other.toList) →
      (parse log).passed = (parse other).passed ∧ (parse log).failed = (parse other).failed ∧
        (parse log).skipped = (parse other).skipped ∧ (parse log).total = (parse other).total := by
  refine ⟨?_, ?_, ?_, ?_, ?_⟩
  · intro log r
    constructor
    · rintro rfl
      exact isReading_parse log
    · intro h
      exact h.unique (isReading_parse log)
  · intro log
    refine ⟨unlines_splitLines log.toList, ?_⟩
    intro line hline
    exact newline_notMem_of_mem_splitLines hline
  · intro line report h report' h'
    exact h.unique h'
  · intro log
    exact ⟨(worstOf_parse log).disjoint, (worstOf_parse log).total_eq⟩
  · intro log other hperm
    have hsame (o : TestOutcome) (n : String) : Reported other o n ↔ Reported log o n := by
      unfold Reported
      simp only [hperm.mem_iff]
    have hother : (parse other).WorstOf (Reported log) := (worstOf_parse other).congr hsame
    obtain ⟨hpassed, hfailed, hskipped⟩ := (worstOf_parse log).sets_eq hother
    exact ⟨hpassed, hfailed, hskipped, (worstOf_parse log).total_eq.trans hother.total_eq.symm⟩

/-- A log with its lines in the opposite order. -/
def backwards (log : String) : String := String.ofList (unlines (splitLines log.toList).reverse)

theorem splitLines_backwards (log : String) :
    splitLines (backwards log).toList = (splitLines log.toList).reverse := by
  unfold backwards
  rw [String.toList_ofList]
  refine splitLines_unlines (by simpa using splitLines_ne_nil log.toList) ?_
  intro line hline
  exact newline_notMem_of_mem_splitLines (List.mem_reverse.1 hline)

/-- A test that failed and then passed; the lines end with a carriage return. -/
def sampleLog : String := "--- FAIL: TestAccDisk (0.1s)\r\n--- PASS: TestAccDisk (0.2s)\r\n"

theorem parse_exact_backwards :
    (splitLines sampleLog.toList).Perm (splitLines (backwards sampleLog).toList) ∧
    (parse sampleLog).failed = .ofList ["TestAccDisk"] ∧
    (parse sampleLog).passed = (parse (backwards sampleLog)).passed ∧
    (parse sampleLog).failed = (parse (backwards sampleLog)).failed ∧
    (parse sampleLog).skipped = (parse (backwards sampleLog)).skipped ∧
    (parse sampleLog).total = (parse (backwards sampleLog)).total := by
  have hperm : (splitLines sampleLog.toList).Perm (splitLines (backwards sampleLog).toList) := by
    rw [splitLines_backwards]
    exact (List.reverse_perm _).symm
  exact ⟨hperm, by decide +kernel, parse_exact.2.2.2.2 _ _ hperm⟩

end CassetteGate.TestLog
