import CassetteGate.Proofs.AddedTests
import CassetteGate.Report.Presubmit

/-!
# `Proofs.Report.Lines` — the lines of a report

A report is put together from lines and read as a text. Whoever reads the text cuts it at the newlines,
and finds the lines that it was made of unless one of them holds a newline itself. What the program
writes holds none; what it copies is names: of services, of tests, and of what links are made of. So
a report has the lines that its sections say as long as all names stay on one line (`Text.OneLine`).

Names of added tests are cut out of the lines of a diff, and need no such condition
(`oneLine_unexercised`).

## Contents
- **`Text.OneLine`**; **`ReportContext.OneLine`**, **`PhaseRun.OneLine`**, **`RunState.OneLine`**: the
  same for all names of links, phases and runs.
- **`oneLine_unexercised`**: the names of added tests.
- **`Report.mem_splitLines_text`**, **`Report.mem_splitLines_text_of_mem`**: the lines of a text that
  lines make.
- **`Report.sections_of_clean`**, **`Report.sections_of_failed`**: what a report is made of.
-/

namespace CassetteGate

/-! ## Texts without newlines -/

/-- The text stays on one line. -/
def Text.OneLine (s : String) : Prop := '\n' ∉ s.toList

namespace Text

variable {a b : String}

instance (s : String) : Decidable (OneLine s) := inferInstanceAs (Decidable ('\n' ∉ s.toList))

theorem OneLine.ofList {cs : List Char} (h : '\n' ∉ cs) : OneLine (String.ofList cs) := by
  unfold OneLine
  rwa [String.toList_ofList]

theorem oneLine_append : OneLine (a ++ b) ↔ OneLine a ∧ OneLine b := by
  unfold OneLine
  rw [String.toList_append, List.mem_append, not_or]

theorem OneLine.append (ha : OneLine a) (hb : OneLine b) : OneLine (a ++ b) :=
  oneLine_append.2 ⟨ha, hb⟩

theorem oneLine_toString (n : Nat) : OneLine (toString n) := by
  intro hmem
  rw [Nat.toString_eq_repr, Nat.toList_repr] at hmem
  have hdigit : '\n'.isDigit = true := Nat.isDigit_of_mem_toDigits (by decide) (by decide) hmem
  exact absurd hdigit (by decide)

end Text

open Text

/-- The names that links are made of stay on one line. -/
structure ReportContext.OneLine (ctx : ReportContext) : Prop where
  logBucket : Text.OneLine ctx.logBucket
  headRef : Text.OneLine ctx.headRef
  buildId : Text.OneLine ctx.buildId

namespace ReportContext

variable {ctx : ReportContext} {file : String}

theorem OneLine.artifacts (h : ctx.OneLine) : Text.OneLine ctx.artifacts := by
  have hversion : Text.OneLine ctx.version.name := by
    cases ctx.version <;> decide
  have hbranch : Text.OneLine (ctx.logBucket ++ "/" ++ ctx.version.name ++ "/refs/heads/") :=
    ((h.logBucket.append (.ofList (by decide))).append hversion).append (.ofList (by decide))
  exact ((hbranch.append h.headRef).append (.ofList (by decide))).append h.buildId

theorem OneLine.logUrl (h : ctx.OneLine) (hfile : Text.OneLine file) :
    Text.OneLine (ctx.logUrl file) := by
  have hsite : Text.OneLine "https://storage.cloud.google.com/" := .ofList (by decide)
  exact ((hsite.append h.artifacts).append (.ofList (by decide))).append hfile

theorem OneLine.browserUrl (h : ctx.OneLine) (hfile : Text.OneLine file) :
    Text.OneLine (ctx.browserUrl file) := by
  have hsite : Text.OneLine "https://console.cloud.google.com/storage/browser/" :=
    .ofList (by decide)
  exact ((hsite.append h.artifacts).append (.ofList (by decide))).append hfile

end ReportContext

/-- The names of tests that were not run stay on one line. -/
structure UnexercisedTests.OneLine (tests : UnexercisedTests) : Prop where
  /-- Those added to the beta provider. -/
  beta : ∀ test ∈ tests.beta, Text.OneLine test
  /-- Those added to the general provider only. -/
  ga : ∀ test ∈ tests.ga, Text.OneLine test

/-- The names of the tests that a phase passed or failed stay on one line. -/
structure PhaseRun.OneLine (run : PhaseRun) : Prop where
  passed : ∀ test ∈ run.result.passed, Text.OneLine test
  failed : ∀ test ∈ run.result.failed, Text.OneLine test

instance (run : PhaseRun) : Decidable run.OneLine :=
  decidable_of_iff
    ((∀ test ∈ run.result.passed, Text.OneLine test) ∧ ∀ test ∈ run.result.failed, Text.OneLine test)
    ⟨fun ⟨hp, hf⟩ => ⟨hp, hf⟩, fun ⟨hp, hf⟩ => ⟨hp, hf⟩⟩

/-- The names of services and tests that a run came across stay on one line. -/
structure RunState.OneLine (s : RunState) : Prop where
  packages : ∀ name ∈ s.surface.packages, Text.OneLine name
  replay : ∀ run ∈ s.replay, run.OneLine
  record : ∀ run ∈ s.record, run.OneLine
  confirm : ∀ run ∈ s.confirm, run.OneLine

/-! ## Names of added tests -/

/-- A test is named in the line that declares it. -/
theorem oneLine_of_mem_addedTests {diff test : String} (h : test ∈ addedTests diff) :
    Text.OneLine test := by
  obtain ⟨line, hline, -, rest, hdeclared⟩ := mem_addedTests_iff.1 h
  intro hnewline
  apply newline_notMem_of_mem_splitLines hline
  rw [hdeclared]
  exact List.mem_append_right _ (List.mem_append_left _ hnewline)

/-- Whatever the diffs are, the added tests have names that stay on one line. -/
theorem oneLine_unexercised (gaDiff betaDiff : String) (replay : RunResult) :
    (UnexercisedTests.of gaDiff betaDiff replay).OneLine := by
  refine ⟨fun test htest => ?_, fun test htest => ?_⟩
  · exact oneLine_of_mem_addedTests (NameSet.mem_filter.1 htest).1
  · exact oneLine_of_mem_addedTests (NameSet.mem_filter.1 htest).1

/-! ## The lines of a text -/

namespace Report

variable {lines : Lines} {l : String}

theorem toList_text (lines : Lines) : (text lines).toList = unlines (lines.map String.toList) := by
  unfold text
  rw [String.toList_intercalate]
  induction lines with
  | nil => rfl
  | cons l ls ih =>
      cases ls with
      | nil => simp [unlines]
      | cons m ms =>
          rw [List.map_cons, List.map_cons, List.intercalate_cons_cons, ← List.map_cons, ih]
          simp [unlines]

/-- A line that a text was made of is found in it, whatever the others hold. -/
theorem mem_splitLines_text_of_mem (hl : OneLine l) (hmem : l ∈ lines) :
    l.toList ∈ splitLines (text lines).toList := by
  rw [toList_text]
  induction lines with
  | nil => exact absurd hmem List.not_mem_nil
  | cons m ms ih =>
      cases ms with
      | nil =>
          rw [List.mem_singleton.1 hmem]
          rw [List.mem_singleton.1 hmem] at hl
          show m.toList ∈ splitLines m.toList
          rw [splitLines_of_newline_notMem hl]
          exact List.mem_singleton_self _
      | cons n ns =>
          show l.toList ∈ splitLines (m.toList ++ '\n' :: unlines ((n :: ns).map String.toList))
          rw [splitLines_append_newline, List.mem_append]
          rcases List.mem_cons.1 hmem with rfl | hmem
          · rw [splitLines_of_newline_notMem hl]
            exact Or.inl (List.mem_singleton_self _)
          · exact Or.inr (ih hmem)

/-- **The lines of a text are those that it was made of**, if they are lines; a text that was made of
    no lines has an empty one all the same. -/
theorem mem_splitLines_text (hl : l ≠ "") (h : ∀ l ∈ lines, OneLine l) :
    l.toList ∈ splitLines (text lines).toList ↔ l ∈ lines := by
  rw [toList_text]
  by_cases hnone : lines = []
  · rw [hnone]
    simp [unlines, hl]
  · have hsplit : splitLines (unlines (lines.map String.toList)) = lines.map String.toList := by
      apply splitLines_unlines
      · rwa [Ne, List.map_eq_nil_iff]
      · exact List.forall_mem_map.2 h
    rw [hsplit, List.mem_map]
    constructor
    · rintro ⟨m, hm, hml⟩
      rwa [← String.toList_inj.1 hml]
    · intro hmem
      exact ⟨l, hmem, rfl⟩

/-! ## The sections of a report

Every report on a run without a crash begins in the same way; how it ends depends on whether a test
failed in the replay. -/

variable {s : RunState} {ctx : ReportContext} {replay : PhaseRun}

theorem sections_of_clean (hreplay : s.replay = some replay)
    (hf : replay.result.failed.isEmpty = true) :
    sections s ctx = [analytics replay.result, affectedPackages s.surface]
      ++ (unexercised s.unexercised).toList ++ [replayClean replay ctx] := by
  simp [sections, hreplay, hf]

theorem sections_of_failed (hreplay : s.replay = some replay)
    (hf : replay.result.failed.isEmpty = false) :
    sections s ctx = [analytics replay.result, affectedPackages s.surface]
      ++ (unexercised s.unexercised).toList ++ [actionTaken replay.result]
      ++ [recordReplay s ctx] := by
  simp [sections, hreplay, hf]

end Report

end CassetteGate
