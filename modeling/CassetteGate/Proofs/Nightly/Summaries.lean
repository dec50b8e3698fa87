import CassetteGate.Proofs.Nightly.Course
import CassetteGate.Proofs.Report.Lines
import CassetteGate.Proofs.Verdict

/-!
# `Proofs.Nightly.Summaries` — the summaries of a refresh agree with its outcome

Whoever runs a refresh looks at its outcome; whoever reads the build log looks for a line that says
that all tests passed. Each of the two is worked out on its own: the outcome from the crash, the
recording and the replay, a summary from one phase alone. They agree because there is a summary of the
recording exactly if there was one, and a recording leaves the outcome to itself: the replay in front of
it had failures, so it was not clean anyway.

In a summary the line is looked for among names and errors. They stay on one line each, and stand
behind fixed words that the line does not begin with (`Report.other_append`).

## Contents
- **`Report.Other`**, **`Report.Says`**: a line among others.
- **`Report.says_nightlyReplay`**, **`Report.says_nightlyRecord`**: the two summaries.
- **`Ended`**, **`ended_of_runs`**: what a refresh can return.
- **`Agrees`**, and **`summaries_agree`**: what is returned is of one piece.
-/

namespace CassetteGate

open Text

namespace Report

variable {said l t u heading : String} {cs ds : List Char} {lines more : Lines} {p q : Prop}
  {run : PhaseRun}

/-! ## A line among others -/

/-- A line, and not the one that is looked for. -/
def Other (said l : String) : Prop := OneLine l ∧ l ≠ said

/-- A text of the program that is another. -/
theorem Other.fixed (h : '\n' ∉ cs ∧ cs ≠ ds) : Other (String.ofList ds) (String.ofList cs) :=
  ⟨.ofList h.1, fun heq => h.2 (String.ofList_injective heq)⟩

/-- A line does not begin with words that the one that is looked for does not begin with. -/
theorem other_append (h : '\n' ∉ cs ∧ cs.isPrefixOf ds = false) (ht : OneLine t) :
    Other (String.ofList ds) (String.ofList cs ++ t) := by
  refine ⟨OneLine.append (.ofList h.1) ht, ?_⟩
  intro heq
  have hchars : cs ++ t.toList = ds := by
    rw [← String.toList_ofList (l := ds), ← heq, String.toList_append, String.toList_ofList]
  have hbegins : cs.isPrefixOf ds = true := List.isPrefixOf_iff_prefix.2 ⟨t.toList, hchars⟩
  rw [hbegins] at h
  cases h.2

/-- The line is among the others exactly if `p`. -/
structure Says (said : String) (lines : Lines) (p : Prop) : Prop where
  /-- All of them are lines. -/
  oneLine : ∀ l ∈ lines, OneLine l
  /-- The one that is looked for is among them. -/
  mem_iff : said ∈ lines ↔ p

namespace Says

theorem others (h : ∀ l ∈ lines, Other said l) : Says said lines False := by
  refine ⟨fun l hl => (h l hl).1, ?_, False.elim⟩
  intro hmem
  exact (h said hmem).2 rfl

theorem singleton (h : OneLine said) : Says said [said] True :=
  ⟨List.forall_mem_singleton.2 h, iff_true_intro List.mem_cons_self⟩

theorem append (h : Says said lines p) (hmore : Says said more q) :
    Says said (lines ++ more) (p ∨ q) := by
  refine ⟨List.forall_mem_append.2 ⟨h.oneLine, hmore.oneLine⟩, ?_⟩
  rw [List.mem_append, h.mem_iff, hmore.mem_iff]

theorem congr (h : Says said lines p) (hpq : p ↔ q) : Says said lines q :=
  ⟨h.oneLine, h.mem_iff.trans hpq⟩

theorem behind (h : ∀ l ∈ lines, Other said l) (hmore : Says said more p) :
    Says said (lines ++ more) p :=
  ((others h).append hmore).congr (by rw [false_or])

/-- An empty line in front of the lines, if there are lines, does not matter. -/
theorem gapped (h : Says said lines p) (hgap : Other said "") :
    Says said (if lines.isEmpty then [] else "" :: lines) p := by
  cases lines with
  | nil => exact h
  | cons l ls => exact behind (List.forall_mem_singleton.2 hgap) h

/-- A text that is made of the lines has the line exactly if `p`. -/
theorem text_iff (h : Says said lines p) (hsaid : said ≠ "") :
    said.toList ∈ splitLines (text lines).toList ↔ p :=
  (mem_splitLines_text hsaid h.oneLine).trans h.mem_iff

end Says

/-! ## The two summaries -/

/-- What is said of a replay in which all tests passed. -/
def replayPassed : String := "All tests passed in REPLAYING mode."

/-- What is said of a recording in which all tests passed. -/
def recordPassed : String := "All tests passed!"

theorem other_bannered (hrule : Other said banner) (h : Other said heading) :
    ∀ l ∈ bannered heading, Other said l :=
  List.forall_mem_cons.2 ⟨hrule, List.forall_mem_cons.2 ⟨h, List.forall_mem_singleton.2 hrule⟩⟩

theorem other_testList {tests : NameSet} (hgap : Other (String.ofList ds) "")
    (hheading : Other (String.ofList ds) heading) (hitem : ['-', ' '].isPrefixOf ds = false)
    (hnames : ∀ name ∈ tests, OneLine name) :
    ∀ l ∈ testList heading tests, Other (String.ofList ds) l := by
  unfold testList
  by_cases hnone : tests.isEmpty = true
  · rw [if_pos hnone]
    exact List.forall_mem_nil _
  · rw [if_neg hnone]
    refine List.forall_mem_cons.2 ⟨hgap, List.forall_mem_cons.2 ⟨hheading, ?_⟩⟩
    refine List.forall_mem_map.2 fun name hname => ?_
    exact other_append ⟨by decide, hitem⟩ (hnames name hname)

/-- A line that tells of an error or a crash in a phase. -/
theorem other_around (h : '\n' ∉ cs ∧ cs.isPrefixOf ds = false) (ht : OneLine t) (hu : OneLine u) :
    Other (String.ofList ds) (String.ofList cs ++ t ++ u) := by
  rw [String.append_assoc]
  exact other_append h (ht.append hu)

theorem says_nightlyReplayStatus (herror : ∀ e ∈ run.exitError, OneLine e) :
    Says replayPassed
      (match nightlyReplayStatus run with
        | some status => "" :: bannered status
        | none => [])
      (run.result.failed.isEmpty = true ∧ run.exitError = none) := by
  have hgap : Other replayPassed "" := .fixed (by decide)
  have hrule : Other replayPassed banner := .fixed (by decide)
  unfold nightlyReplayStatus
  cases hexit : run.exitError with
  | some e =>
      have hline : Other replayPassed ("Errors occurred during REPLAYING mode: " ++ e ++ ".") :=
        other_around (by decide) (herror e hexit) (.ofList (by decide))
      have hlines := List.forall_mem_cons.2 ⟨hgap, other_bannered hrule hline⟩
      exact (Says.others hlines).congr (by simp)
  | none =>
      cases hf : run.result.failed.isEmpty with
      | true =>
          have hfront : ∀ l ∈ ["", banner], Other replayPassed l :=
            List.forall_mem_cons.2 ⟨hgap, List.forall_mem_singleton.2 hrule⟩
          have hsaid : Says replayPassed [replayPassed] True := .singleton (.ofList (by decide))
          have hend : Says replayPassed [banner] False := .others (List.forall_mem_singleton.2 hrule)
          exact (Says.behind hfront (hsaid.append hend)).congr (by simp)
      | false => exact (Says.others (List.forall_mem_nil _)).congr (by simp)

/-- **The summary of a replay says that all tests passed exactly if the replay was clean.** -/
theorem says_nightlyReplay (hnames : ∀ name ∈ run.result.failed, OneLine name)
    (herror : ∀ e ∈ run.exitError, OneLine e) :
    Says replayPassed (nightlyReplay run) (run.isClean = true) := by
  unfold nightlyReplay
  rw [PhaseRun.isClean_iff]
  cases hc : run.result.crashed with
  | true =>
      have hcrash : Other replayPassed (nightlyCrash .replaying) :=
        other_around (by decide) (.ofList (by decide)) (.ofList (by decide))
      rw [if_pos rfl]
      exact (Says.others (List.forall_mem_singleton.2 hcrash)).congr (by simp)
  | false =>
      have hgap : Other replayPassed "" := .fixed (by decide)
      have hrule : Other replayPassed banner := .fixed (by decide)
      have hhead : ∀ l ∈ bannered "Tests Analytics", Other replayPassed l :=
        other_bannered hrule (.fixed (by decide))
      have hcounts : ∀ l ∈ ["", "Total tests: " ++ toString run.result.total,
          "Passed tests: " ++ toString run.result.passed.size,
          "Skipped tests: " ++ toString run.result.skipped.size,
          "Affected tests: " ++ toString run.result.failed.size], Other replayPassed l := by
        refine List.forall_mem_cons.2 ⟨hgap, ?_⟩
        refine List.forall_mem_cons.2 ⟨other_append (by decide) (oneLine_toString _), ?_⟩
        refine List.forall_mem_cons.2 ⟨other_append (by decide) (oneLine_toString _), ?_⟩
        refine List.forall_mem_cons.2 ⟨other_append (by decide) (oneLine_toString _), ?_⟩
        exact List.forall_mem_singleton.2 (other_append (by decide) (oneLine_toString _))
      have htests : ∀ l ∈ testList "Affected tests list:" run.result.failed, Other replayPassed l :=
        other_testList hgap (.fixed (by decide)) (by decide) hnames
      have hend : ∀ l ∈ ["", banner], Other replayPassed l :=
        List.forall_mem_cons.2 ⟨hgap, List.forall_mem_singleton.2 hrule⟩
      have hfront := List.forall_mem_append.2
        ⟨List.forall_mem_append.2 ⟨List.forall_mem_append.2 ⟨hhead, hcounts⟩, htests⟩, hend⟩
      rw [if_neg Bool.false_ne_true]
      exact (Says.behind hfront (says_nightlyReplayStatus herror)).congr (by simp)

theorem says_nightlyRecordStatus (terminated : Bool) (herror : ∀ e ∈ run.exitError, OneLine e) :
    Says recordPassed (nightlyRecordStatus run terminated)
      (run.result.failed.isEmpty = true ∧ run.exitError = none ∧ terminated = false) := by
  have hterminated : ∀ l ∈ if terminated then ["Several tests got terminated during RECORDING mode"]
      else [], Other recordPassed l := by
    cases terminated with
    | true => exact List.forall_mem_singleton.2 (.fixed (by decide))
    | false => exact List.forall_mem_nil _
  unfold nightlyRecordStatus
  cases hexit : run.exitError with
  | some e =>
      have hline : Other recordPassed ("Errors occurred during RECORDING mode: " ++ e ++ ".") :=
        other_around (by decide) (herror e hexit) (.ofList (by decide))
      have hfront := List.forall_mem_append.2 ⟨hterminated, List.forall_mem_singleton.2 hline⟩
      exact (Says.behind hfront (Says.others (by simp))).congr (by simp)
  | none =>
      have hfront := List.forall_mem_append.2 ⟨hterminated, List.forall_mem_nil _⟩
      cases hf : run.result.failed.isEmpty with
      | false => exact (Says.behind hfront (Says.others (by simp))).congr (by simp)
      | true =>
          cases terminated with
          | true => exact (Says.behind hfront (Says.others (by simp))).congr (by simp)
          | false => exact (Says.behind hfront (Says.singleton (by decide))).congr (by simp)

/-- **The summary of a recording says that all tests passed exactly if the recording was clean and no
    test was lost.** -/
theorem says_nightlyRecord (terminated : Bool) (hnames : run.OneLine)
    (herror : ∀ e ∈ run.exitError, OneLine e) :
    Says recordPassed (nightlyRecord run terminated) (run.isClean = true ∧ terminated = false) := by
  have hrule : Other recordPassed banner := .fixed (by decide)
  unfold nightlyRecord
  rw [PhaseRun.isClean_iff]
  cases hc : run.result.crashed with
  | true =>
      have hcrash : Other recordPassed (nightlyCrash .recording) :=
        other_around (by decide) (.ofList (by decide)) (.ofList (by decide))
      rw [if_pos rfl]
      exact (Says.others (other_bannered hrule hcrash)).congr (by simp)
  | false =>
      have hgap : Other recordPassed "" := .fixed (by decide)
      have hhead : ∀ l ∈ bannered "RECORDING Tests Report", Other recordPassed l :=
        other_bannered hrule (.fixed (by decide))
      have hpassed : ∀ l ∈ testList "Tests passed during RECORDING mode:" run.result.passed,
          Other recordPassed l :=
        other_testList hgap (.fixed (by decide)) (by decide) hnames.passed
      have hfailed : ∀ l ∈ testList "Tests failed during RECORDING mode:" run.result.failed,
          Other recordPassed l :=
        other_testList hgap (.fixed (by decide)) (by decide) hnames.failed
      have hfront := List.forall_mem_append.2 ⟨List.forall_mem_append.2 ⟨hhead, hpassed⟩, hfailed⟩
      have hstatus := says_nightlyRecordStatus terminated herror
      rw [if_neg Bool.false_ne_true]
      exact (Says.behind hfront (hstatus.gapped hgap)).congr (by simp [and_assoc])

end Report

open Pipeline (Runs)
open Report (replayPassed recordPassed)

namespace Nightly

variable {config : Config} {request : RefreshRequest} {t : Transcript} {o : RefreshOutcome}

/-! ## Outcomes -/

/-- What a refresh can return: what is known after a replay that crashed or had no failures, or after a
    recording behind a replay that did not crash but had some. -/
inductive Ended : RefreshOutcome → Prop where
  | replayed (run : PhaseRun) (h : run.result.crashed = true ∨ run.result.failed.isEmpty = true) :
      Ended (replayOutcome run)
  | recorded (run record : PhaseRun) (uploaded : Bool) (hc : run.result.crashed = false)
      (hf : run.result.failed.isEmpty = false) :
      Ended (recordOutcome (replayOutcome run) record uploaded)

theorem ended_of_runs (h : Runs (nightly config request) t (.ok o)) : Ended o := by
  cases course_nightly h with
  | crashed dir run l hc => exact .replayed run (Or.inl hc)
  | clean dir run l hc hf => exact .replayed run (Or.inr hf)
  | repairing dir run l hc hf hw =>
      cases hw with
      | recorded record l hp => exact .recorded run record _ hc hf

/-- The text has the line. -/
def HasLine (text line : String) : Prop := line.toList ∈ splitLines text.toList

/-- What a refresh returns is of one piece. -/
structure Agrees (o : RefreshOutcome) : Prop where
  /-- All is well exactly if the summary of the last phase says so. -/
  allPassed : o.allPassed = true ↔
    match o.recordSummary with
    | some summary => HasLine summary recordPassed
    | none => HasLine o.replaySummary replayPassed
  /-- There is a summary of the recording exactly if there was one. -/
  recordSummary : o.recordSummary.isSome = o.record.isSome
  /-- The provider crashed in the phase that has a panic, and in no other. -/
  crashed : ∀ mode, o.crashed = some mode ↔
    match mode with
    | .replaying => o.replay.result.panics ≠ []
    | .recording => ∃ record ∈ o.record, record.result.panics ≠ []
  /-- The summary of that phase says nothing else. -/
  crash : ∀ mode, o.crashed = some mode →
    match mode with
    | .replaying => o.replaySummary = Report.nightlyCrash .replaying
    | .recording =>
        o.recordSummary = some (Report.text (Report.bannered (Report.nightlyCrash .recording)))

/-- The names of all tests and the errors of both phases stay on one line. -/
structure OnOneLine (o : RefreshOutcome) : Prop where
  replay : o.replay.OneLine
  replayError : ∀ e ∈ o.replay.exitError, Text.OneLine e
  record : ∀ record ∈ o.record, record.OneLine
  recordError : ∀ record ∈ o.record, ∀ e ∈ record.exitError, Text.OneLine e

/-- The mode of a phase with this result, if the provider crashed in it. -/
def crashedIn (phase : TestMode) (r : RunResult) : Option TestMode :=
  if r.crashed then some phase else none

theorem crashedIn_eq_some_iff {phase mode : TestMode} {r : RunResult} :
    crashedIn phase r = some mode ↔ r.panics ≠ [] ∧ phase = mode := by
  unfold crashedIn RunResult.crashed
  cases r.panics with
  | nil => exact iff_of_false nofun fun h => h.1 rfl
  | cons line lines => exact Option.some_inj.trans (and_iff_right (List.cons_ne_nil line lines)).symm

theorem crashed_of_panics {r : RunResult} (h : r.panics ≠ []) : r.crashed = true := by
  unfold RunResult.crashed
  rw [Bool.not_eq_true', List.isEmpty_eq_false_iff]
  exact h

/-- A clean phase is one that the provider did not crash in. -/
theorem crashedIn_of_isClean {run : PhaseRun} (phase : TestMode) (h : run.isClean = true) :
    (crashedIn phase run.result).isNone = true := by
  unfold crashedIn
  rw [(PhaseRun.isClean_iff.1 h).2.1]
  rfl

/-- What is known after a replay agrees with its summary. -/
theorem agrees_replayOutcome {run : PhaseRun} (h : OnOneLine (replayOutcome run)) :
    Agrees (replayOutcome run) where
  allPassed := by
    have hsays := (Report.says_nightlyReplay h.replay.failed h.replayError).text_iff (by decide)
    show ((crashedIn .replaying run.result).isNone && run.isClean) = true ↔ _
    -- that the provider did not crash is part of being clean
    rw [Bool.and_eq_true, and_iff_right_of_imp (crashedIn_of_isClean .replaying)]
    exact hsays.symm
  recordSummary := rfl
  crashed mode := by
    show crashedIn .replaying run.result = some mode ↔ _
    rw [crashedIn_eq_some_iff]
    cases mode with
    | replaying => exact and_iff_left rfl
    | recording => exact iff_of_false (fun h => nomatch h.2) (fun ⟨_, hrecord, _⟩ => nomatch hrecord)
  crash mode hcrash := by
    have hmode : crashedIn .replaying run.result = some mode := hcrash
    obtain ⟨hpanic, rfl⟩ := crashedIn_eq_some_iff.1 hmode
    show Report.text (Report.nightlyReplay run) = _
    unfold Report.nightlyReplay
    rw [if_pos (crashed_of_panics hpanic)]
    rfl

/-- What is known after a recording agrees with its summary, if the replay did not crash. -/
theorem agrees_recordOutcome {run record : PhaseRun} {uploaded : Bool}
    (hc : run.result.crashed = false)
    (h : OnOneLine (recordOutcome (replayOutcome run) record uploaded)) :
    Agrees (recordOutcome (replayOutcome run) record uploaded) where
  allPassed := by
    have hsays := (Report.says_nightlyRecord (RunResult.hasTerminatedTests run.result record.result)
      (h.record record rfl) (h.recordError record rfl)).text_iff (by decide)
    show ((crashedIn .recording record.result).isNone && (record.isClean &&
      !RunResult.hasTerminatedTests run.result record.result)) = true ↔ _
    rw [Bool.and_eq_true, Bool.and_eq_true, Bool.not_eq_true',
      and_iff_right_of_imp fun h => crashedIn_of_isClean .recording h.1]
    exact hsays.symm
  recordSummary := rfl
  crashed mode := by
    show crashedIn .recording record.result = some mode ↔ _
    rw [crashedIn_eq_some_iff]
    cases mode with
    | replaying =>
        -- there is no recording behind a crash, so it was not the replay that crashed
        have hnone : ¬ run.result.panics ≠ [] := by
          intro hpanic
          rw [crashed_of_panics hpanic] at hc
          cases hc
        exact iff_of_false (fun h => nomatch h.2) hnone
    | recording =>
        constructor
        · rintro ⟨hpanic, -⟩
          exact ⟨record, rfl, hpanic⟩
        · rintro ⟨_, hrecord, hpanic⟩
          obtain rfl := Option.some.inj hrecord
          exact ⟨hpanic, rfl⟩
  crash mode hcrash := by
    have hmode : crashedIn .recording record.result = some mode := hcrash
    obtain ⟨hpanic, rfl⟩ := crashedIn_eq_some_iff.1 hmode
    show some (Report.text (Report.nightlyRecord record _)) = _
    unfold Report.nightlyRecord
    rw [if_pos (crashed_of_panics hpanic)]

/-- What a refresh returns in which a test fails and its recording repairs it. -/
def sampleRepaired : RefreshOutcome :=
  recordOutcome (replayOutcome (Presubmit.samplePhase .fail)) (Presubmit.samplePhase .pass) true

theorem onOneLine_sampleRepaired : OnOneLine sampleRepaired where
  replay := by
    show PhaseRun.OneLine (Presubmit.samplePhase .fail)
    decide
  replayError := nofun
  record := by
    rintro _ ⟨⟩
    show PhaseRun.OneLine (Presubmit.samplePhase .pass)
    decide
  recordError := by
    rintro _ ⟨⟩
    exact nofun

end Nightly

end CassetteGate
