import CassetteGate.Proofs.Report.Lines

/-!
# `Proofs.Report.Success` — when a report says that all tests passed

The author of a change looks for one line in the report: `allPassed`, in green. Most lines are not
mistaken for it: they start with another character, are red, or say something else in green. A list of
such lines is *silent*. Only two sections can say that all tests passed, the end of a report on a
replay without failures and the end of a report on a recording. `Tells lines p` is what is shown of
each of them: its lines are lines, and the green one is among them exactly if `p`. From there to the
whole report, silent lines around a section change nothing about what it tells.

## Contents
- **`colored_injective`**, **`red_ne_green`**: coloured texts.
- **`Silent`**: **`silent_analytics`** … **`silent_crash`**, the sections that never say it.
- **`Tells`**: **`tells_replayClean`**, **`tells_recordReplay`**, the sections that may say it.
- **`tells_sections_of_clean`**, **`tells_sections_of_failed`**: whole reports.
-/

namespace CassetteGate

open Text

namespace Report

variable {lines : Lines} {l t : String} {ctx : ReportContext}

/-! ## Coloured texts -/

theorem toList_colored (color t : String) : (colored color t).toList =
    "$\\textcolor\x7b".toList ++ (color.toList ++
      ("\x7d\x7b\\textsf\x7b".toList ++ (t.toList ++ "\x7d\x7d$".toList))) := by
  have htext : colored color t =
      "$\\textcolor\x7b" ++ color ++ "\x7d\x7b\\textsf\x7b" ++ t ++ "\x7d\x7d$" := rfl
  rw [htext]
  simp only [String.toList_append, List.append_assoc]

theorem exists_toList_colored (color t : String) : ∃ cs, (colored color t).toList = '$' :: cs := by
  have hlead : "$\\textcolor\x7b".toList = '$' :: "\\textcolor\x7b".toList := rfl
  rw [toList_colored, hlead]
  exact ⟨_, rfl⟩

theorem colored_injective {color u : String} (h : colored color t = colored color u) : t = u := by
  have hlead : "$\\textcolor\x7b" ++ color ++ "\x7d\x7b\\textsf\x7b" ++ t
      = "$\\textcolor\x7b" ++ color ++ "\x7d\x7b\\textsf\x7b" ++ u :=
    (String.append_left_inj _).1 h
  exact (String.append_right_inj _).1 hlead

/-- The colours differ in their first letter, whatever the texts are. -/
theorem red_ne_green (t u : String) : colored "red" t ≠ colored "green" u := by
  intro heq
  have hchars := congrArg String.toList heq
  rw [toList_colored, toList_colored] at hchars
  have hcolor := List.append_cancel_left hchars
  have hred : "red".toList = ['r', 'e', 'd'] := rfl
  have hgreen : "green".toList = ['g', 'r', 'e', 'e', 'n'] := rfl
  rw [hred, hgreen] at hcolor
  exact absurd (List.cons.inj hcolor).1 (by decide)

theorem allPassed_ne_empty : allPassed ≠ "" := by
  intro hnone
  obtain ⟨cs, hcs⟩ : ∃ cs, allPassed.toList = '$' :: cs := exists_toList_colored _ _
  rw [hnone, String.toList_empty] at hcs
  cases hcs

/-! ## Lines beside the green one -/

/-- A line, and not the green one. -/
def Neutral (l : String) : Prop := OneLine l ∧ l ≠ allPassed

/-- A line that starts with another character than a coloured one. -/
def Unmarked (l : String) : Prop := OneLine l ∧ ∃ c cs, l.toList = c :: cs ∧ c ≠ '$'

theorem Unmarked.ofList {c : Char} {cs : List Char} (h : '\n' ∉ c :: cs ∧ c ≠ '$') :
    Unmarked (String.ofList (c :: cs)) :=
  ⟨.ofList h.1, c, cs, String.toList_ofList, h.2⟩

/-- What is put behind does not change how a line starts. -/
theorem Unmarked.append (h : Unmarked l) (ht : OneLine t) : Unmarked (l ++ t) := by
  obtain ⟨hline, c, cs, hl, hc⟩ := h
  refine ⟨hline.append ht, c, cs ++ t.toList, ?_, hc⟩
  rw [String.toList_append, hl]
  rfl

theorem Unmarked.neutral (h : Unmarked l) : Neutral l := by
  obtain ⟨hline, c, cs, hl, hc⟩ := h
  refine ⟨hline, ?_⟩
  rintro rfl
  obtain ⟨rest, hstart⟩ : ∃ cs, allPassed.toList = '$' :: cs := exists_toList_colored _ _
  rw [hl] at hstart
  exact hc (List.cons.inj hstart).1

theorem neutral_empty : Neutral "" := ⟨.ofList (by decide), allPassed_ne_empty.symm⟩

theorem oneLine_colored {color : String} (hcolor : OneLine color) (h : OneLine t) :
    OneLine (colored color t) := by
  have hlead : OneLine ("$\\textcolor\x7b" ++ color ++ "\x7d\x7b\\textsf\x7b") :=
    (OneLine.append (.ofList (by decide)) hcolor).append (.ofList (by decide))
  exact (hlead.append h).append (.ofList (by decide))

theorem oneLine_allPassed : OneLine allPassed :=
  oneLine_colored (.ofList (by decide)) (.ofList (by decide))

theorem neutral_red (h : OneLine t) : Neutral (colored "red" t) :=
  ⟨oneLine_colored (.ofList (by decide)) h, red_ne_green t _⟩

/-- Texts that start with different characters differ. -/
theorem ofList_ne {c d : Char} {cs ds : List Char} (h : c ≠ d) :
    String.ofList (c :: cs) ≠ String.ofList (d :: ds) := by
  intro heq
  have hchars : c :: cs = d :: ds := String.ofList_injective heq
  exact h (List.cons.inj hchars).1

theorem neutral_green (h : OneLine t) (hother : t ≠ "All tests passed!") :
    Neutral (colored "green" t) :=
  ⟨oneLine_colored (.ofList (by decide)) h, fun hgreen => hother (colored_injective hgreen)⟩

/-- None of the lines says that all tests passed. -/
def Silent (lines : Lines) : Prop := ∀ l ∈ lines, Neutral l

namespace Silent

variable {more : Lines}

theorem nil : Silent [] := List.forall_mem_nil _

theorem cons (hl : Neutral l) (h : Silent lines) : Silent (l :: lines) :=
  List.forall_mem_cons.2 ⟨hl, h⟩

theorem append (h : Silent lines) (hmore : Silent more) : Silent (lines ++ more) :=
  List.forall_mem_append.2 ⟨h, hmore⟩

theorem fixed {c : Char} {cs : List Char} (hl : '\n' ∉ c :: cs ∧ c ≠ '$') (h : Silent lines) :
    Silent (String.ofList (c :: cs) :: lines) :=
  cons (Unmarked.ofList hl).neutral h

theorem gap (h : Silent lines) : Silent ("" :: lines) := cons neutral_empty h

theorem map {names : NameSet} {f : String → String} (h : ∀ name ∈ names, Neutral (f name)) :
    Silent (names.toList.map f) :=
  List.forall_mem_map.2 h

end Silent

/-! ## Sections that never say it -/

theorem neutral_count (hl : Unmarked l) (n : Nat) : Neutral (l ++ toString n) :=
  (hl.append (oneLine_toString n)).neutral

theorem silent_analytics (r : RunResult) : Silent (analytics r) := by
  refine .fixed (by decide) ?_
  refine .cons (neutral_count (.ofList (by decide)) _) ?_
  refine .cons (neutral_count (.ofList (by decide)) _) ?_
  refine .cons (neutral_count (.ofList (by decide)) _) ?_
  exact .cons (neutral_count (.ofList (by decide)) _) .nil

theorem silent_bulletList {names : NameSet} (h : ∀ name ∈ names, OneLine name) :
    Silent (bulletList names.toList) := by
  unfold bulletList
  refine .append (.fixed (by decide) (.map fun name hname => ?_)) (.fixed (by decide) .nil)
  have hitem : Unmarked ("<li>" ++ name) := Unmarked.append (.ofList (by decide)) (h name hname)
  exact (hitem.append (.ofList (by decide))).neutral

theorem silent_affectedPackages {surface : ChangeSurface}
    (h : ∀ name ∈ surface.packages, OneLine name) : Silent (affectedPackages surface) := by
  unfold affectedPackages
  refine .append (.append ?_ ?_) (.gap (.fixed (by decide) (.fixed (by decide) .nil)))
  · exact .fixed (by decide) (.fixed (by decide) (.fixed (by decide) (.gap .nil)))
  · by_cases hsweep : surface.fullSweep = true
    · rw [if_pos hsweep]
      exact .fixed (by decide) .nil
    · rw [if_neg hsweep]
      by_cases hnone : surface.packages.isEmpty = true
      · rw [if_pos hnone]
        exact .fixed (by decide) .nil
      · rw [if_neg hnone]
        exact silent_bulletList h

theorem silent_unexercisedBlock {heading : String} {tests : List String} (hh : Unmarked heading)
    (h : ∀ test ∈ tests, OneLine test) : Silent (unexercisedBlock heading tests) := by
  unfold unexercisedBlock
  by_cases hnone : tests.isEmpty = true
  · rw [if_pos hnone]
    exact .nil
  · rw [if_neg hnone]
    refine .gap (.cons hh.neutral ?_)
    refine List.forall_mem_map.2 fun test htest => ?_
    have hitem : Unmarked ("- " ++ test) := Unmarked.append (.ofList (by decide)) (h test htest)
    exact hitem.neutral

theorem silent_unexercised {tests : UnexercisedTests} (h : tests.OneLine)
    (hlines : unexercised tests = some lines) : Silent lines := by
  unfold unexercised at hlines
  by_cases hnone : tests.isEmpty = true
  · rw [if_pos hnone] at hlines
    cases hlines
  · rw [if_neg hnone] at hlines
    obtain rfl := Option.some.inj hlines
    refine .append (.fixed (by decide) ?_) ?_
    · exact silent_unexercisedBlock (.ofList (by decide)) h.beta
    · exact silent_unexercisedBlock (.ofList (by decide)) h.ga

theorem silent_actionTaken {replay : RunResult} (h : ∀ test ∈ replay.failed, OneLine test) :
    Silent (actionTaken replay) := by
  have hlink : Neutral contributingLink :=
    (Unmarked.append (.ofList (by decide)) (.ofList (by decide))).neutral
  have hcount : Unmarked ("<summary>Found " ++ toString replay.failed.size) :=
    Unmarked.append (.ofList (by decide)) (oneLine_toString _)
  unfold actionTaken
  refine .append (.append ?_ (silent_bulletList h)) ?_
  · refine .fixed (by decide) (.fixed (by decide) (.cons ?_ (.fixed (by decide) .nil)))
    exact ((hcount.append (.ofList (by decide))).append (.ofList (by decide))).neutral
  · exact .fixed (by decide) (.fixed (by decide) (.gap (.cons hlink .nil)))

theorem unmarked_buildLogLink (hctx : ctx.OneLine) {file : String} (hfile : OneLine file) :
    Unmarked (buildLogLink ctx file) := by
  have hlink : Unmarked ("View the [build log](" ++ ctx.logUrl file) :=
    Unmarked.append (.ofList (by decide)) (hctx.logUrl hfile)
  exact hlink.append (.ofList (by decide))

theorem silent_crash (hctx : ctx.OneLine) (mode : TestMode) : Silent (crash mode ctx) := by
  have hmode : OneLine mode.upper ∧ OneLine mode.lower := by
    cases mode with
    | recording => exact ⟨.ofList (by decide), .ofList (by decide)⟩
    | replaying => exact ⟨.ofList (by decide), .ofList (by decide)⟩
  have hfile : OneLine ("build-log/" ++ mode.lower ++ "_test.log") :=
    (OneLine.append (.ofList (by decide)) hmode.2).append (.ofList (by decide))
  have hcrashed : OneLine
      ("The provider crashed while running the VCR tests in " ++ mode.upper ++ " mode") :=
    (OneLine.append (.ofList (by decide)) hmode.1).append (.ofList (by decide))
  refine .cons (neutral_red hcrashed) (.gap (.cons (neutral_red (.ofList (by decide))) (.gap ?_)))
  exact .cons (unmarked_buildLogLink hctx hfile).neutral .nil

/-! ## Sections that may say it -/

/-- The lines say that all tests passed exactly if `p`. -/
structure Tells (lines : Lines) (p : Prop) : Prop where
  /-- The lines are lines. -/
  oneLine : ∀ l ∈ lines, OneLine l
  /-- The green one is among them. -/
  mem_iff : allPassed ∈ lines ↔ p

namespace Tells

variable {more : Lines} {p q : Prop}

theorem of_silent (h : Silent lines) : Tells lines False := by
  refine ⟨fun l hl => (h l hl).1, ?_, False.elim⟩
  intro hmem
  exact (h allPassed hmem).2 rfl

theorem behind (hsilent : Silent lines) (h : Tells more p) : Tells (lines ++ more) p := by
  refine ⟨List.forall_mem_append.2 ⟨fun l hl => (hsilent l hl).1, h.oneLine⟩, ?_⟩
  rw [List.mem_append, (of_silent hsilent).mem_iff, h.mem_iff, false_or]

theorem before (h : Tells lines p) (hsilent : Silent more) : Tells (lines ++ more) p := by
  refine ⟨List.forall_mem_append.2 ⟨h.oneLine, fun l hl => (hsilent l hl).1⟩, ?_⟩
  rw [List.mem_append, h.mem_iff, (of_silent hsilent).mem_iff, or_false]

theorem congr (h : Tells lines p) (hpq : p ↔ q) : Tells lines q := ⟨h.oneLine, h.mem_iff.trans hpq⟩

theorem singleton : Tells [allPassed] True :=
  ⟨List.forall_mem_singleton.2 oneLine_allPassed, iff_true_intro List.mem_cons_self⟩

/-- **A section behind sections that never say it**, with an empty line between neighbours. -/
theorem intercalate {front : List Lines} (hfront : ∀ ls ∈ front, Silent ls) (h : Tells lines p) :
    Tells ([""].intercalate (front ++ [lines])) p := by
  induction front with
  | nil =>
      rw [List.nil_append, List.intercalate_singleton]
      exact h
  | cons ls front ih =>
      obtain ⟨hls, hrest⟩ := List.forall_mem_cons.1 hfront
      rw [List.cons_append, List.intercalate_cons_of_ne_nil (by simp)]
      exact behind (hls.append (.gap .nil)) (ih hrest)

end Tells

theorem tells_replayClean (hctx : ctx.OneLine) (replay : PhaseRun) :
    Tells (replayClean replay ctx) (replay.exitError = none) := by
  have hlink : Neutral (buildLogLink ctx "build-log/replaying_test.log") :=
    (unmarked_buildLogLink hctx (.ofList (by decide))).neutral
  have hend : Silent ["", buildLogLink ctx "build-log/replaying_test.log"] := .gap (.cons hlink .nil)
  unfold replayClean
  cases replay.exitError with
  | none => exact Tells.before (Tells.singleton.congr (by simp)) hend
  | some e =>
      have hred : Silent [colored "red"
          "Errors occurred during REPLAYING mode. Please fix them to complete your PR."] :=
        .cons (neutral_red (.ofList (by decide))) .nil
      exact (Tells.of_silent (hred.append hend)).congr (by simp)

/-! ### The end of a report on a recording -/

theorem neutral_debugLine (hctx : ctx.OneLine) {debugLog test : String} (hlog : OneLine debugLog)
    (htest : OneLine test) : Neutral (debugLine ctx debugLog test) := by
  have hname : Unmarked ("`" ++ test ++ "`[[Debug log](") :=
    (Unmarked.append (.ofList (by decide)) htest).append (.ofList (by decide))
  exact ((hname.append (hctx.logUrl hlog)).append (.ofList (by decide))).neutral

theorem neutral_failureLine (hctx : ctx.OneLine) {errorLog debugLog test : String}
    (herror : OneLine errorLog) (hlog : OneLine debugLog) (htest : OneLine test) :
    Neutral (failureLine ctx errorLog debugLog test) := by
  have hname : Unmarked ("`" ++ test ++ "`[[Error message](") :=
    (Unmarked.append (.ofList (by decide)) htest).append (.ofList (by decide))
  have hlinks : Unmarked ("`" ++ test ++ "`[[Error message](" ++ ctx.logUrl errorLog
      ++ ")] [[Debug log](" ++ ctx.logUrl debugLog) :=
    ((hname.append (hctx.logUrl herror)).append (.ofList (by decide))).append (hctx.logUrl hlog)
  exact (hlinks.append (.ofList (by decide))).neutral

/-- Logs of tests have the test's name between a directory and an ending. -/
theorem oneLine_testLog {dir ending : List Char} (h : '\n' ∉ dir ∧ '\n' ∉ ending)
    (ht : OneLine t) : OneLine (String.ofList dir ++ t ++ String.ofList ending) :=
  ((OneLine.ofList h.1).append ht).append (.ofList h.2)

section Recording

variable {record confirm : PhaseRun}

theorem silent_confirmLines (hctx : ctx.OneLine)
    (h : ∀ test ∈ confirm.result.failed, OneLine test) : Silent (confirmLines confirm ctx) := by
  unfold confirmLines
  by_cases hcrashed : confirm.result.crashed = true
  · rw [if_pos hcrashed]
    refine .cons (neutral_red (.ofList (by decide))) ?_
    refine .cons (neutral_red (.ofList (by decide))) (.gap ?_)
    exact .cons (unmarked_buildLogLink hctx (.ofList (by decide))).neutral .nil
  · rw [if_neg hcrashed]
    by_cases hfailed : (!confirm.result.failed.isEmpty) = true
    · rw [if_pos hfailed]
      refine .append (.cons (neutral_red (.ofList (by decide))) (.map fun test htest => ?_)) ?_
      · have hname : OneLine test := h test htest
        exact neutral_failureLine hctx (oneLine_testLog (by decide) hname)
          (oneLine_testLog (by decide) hname) hname
      · refine .gap (.cons ?_ (.gap (.cons ?_ .nil)))
        · exact (Unmarked.append (.ofList (by decide)) (.ofList (by decide))).neutral
        · refine (Unmarked.append (.append ?_ (.ofList (by decide))) (.ofList (by decide))).neutral
          exact .ofList (by decide)
    · rw [if_neg hfailed]
      by_cases herror : confirm.exitError.isSome = true
      · rw [if_pos herror]
        exact .cons (neutral_red (.append (.ofList (by decide)) (.ofList (by decide)))) .nil
      · rw [if_neg herror]
        exact .cons (neutral_green (.ofList (by decide)) (ofList_ne (by decide))) .nil

theorem silent_recordedLines (hctx : ctx.OneLine)
    (hrecord : ∀ test ∈ record.result.passed, OneLine test)
    (hconfirm : ∀ test ∈ confirm.result.failed, OneLine test) :
    Silent (recordedLines record confirm ctx) := by
  unfold recordedLines
  by_cases hnone : record.result.passed.isEmpty = true
  · rw [if_pos hnone]
    exact .nil
  · rw [if_neg hnone]
    have hnames : Silent (record.result.passed.toList.map fun test =>
        debugLine ctx ("recording/" ++ test ++ ".log") test) := by
      refine .map fun test htest => ?_
      have hname : OneLine test := hrecord test htest
      exact neutral_debugLine hctx (oneLine_testLog (by decide) hname) hname
    have hheading : Neutral (colored "green" "Tests passed during RECORDING mode:") :=
      neutral_green (.ofList (by decide)) (ofList_ne (by decide))
    refine .append (.append (.append (.cons hheading hnames) (.gap .nil)) ?_) ?_
    · exact silent_confirmLines hctx hconfirm
    · exact .gap (.fixed (by decide) (.gap .nil))

theorem neutral_terminatedLine : Neutral terminatedLine := neutral_red (.ofList (by decide))

theorem neutral_recordErrorLine : Neutral recordErrorLine := neutral_red (.ofList (by decide))

theorem silent_if {p : Prop} [Decidable p] (h : Neutral l) : Silent (if p then [l] else []) := by
  by_cases hp : p
  · rw [if_pos hp]
    exact .cons h .nil
  · rw [if_neg hp]
    exact .nil

/-- The faults of a recording: it says that all tests passed if there is none, and what was recorded
    replays. -/
theorem tells_recordFaultLines (hctx : ctx.OneLine) (terminated : Bool)
    (h : ∀ test ∈ record.result.failed, OneLine test) :
    Tells (recordFaultLines record confirm terminated ctx)
      (record.result.failed.isEmpty = true ∧ terminated = false ∧ record.exitError = none ∧
        confirm.isClean = true) := by
  unfold recordFaultLines
  cases hfailed : record.result.failed.isEmpty with
  | false =>
      have hnames : Silent (record.result.failed.toList.map fun test =>
          failureLine ctx ("build-log/recording_build/" ++ test ++ "_recording_test.log")
            ("recording/" ++ test ++ ".log") test) := by
        refine .map fun test htest => ?_
        have hname : OneLine test := h test htest
        exact neutral_failureLine hctx (oneLine_testLog (by decide) hname)
          (oneLine_testLog (by decide) hname) hname
      rw [if_pos (by simp)]
      refine (Tells.of_silent ?_).congr (by simp)
      refine .append (.append (.append (.append (.cons ?_ hnames) (.gap .nil)) ?_) ?_) ?_
      · exact neutral_red (.ofList (by decide))
      · exact silent_if neutral_terminatedLine
      · exact silent_if neutral_recordErrorLine
      · exact .cons (neutral_red (.ofList (by decide))) .nil
  | true =>
      rw [if_neg (by simp)]
      cases terminated with
      | true => exact (Tells.of_silent (.cons neutral_terminatedLine .nil)).congr (by simp)
      | false =>
          cases record.exitError with
          | some e => exact (Tells.of_silent (.cons neutral_recordErrorLine .nil)).congr (by simp)
          | none =>
              cases hclean : confirm.isClean with
              | true => exact Tells.singleton.congr (by simp)
              | false => exact (Tells.of_silent Silent.nil).congr (by simp)

end Recording

/-! ## Whole reports -/

variable {s : RunState} {replay : PhaseRun}

theorem oneLine_getD {run : Option PhaseRun} (h : ∀ r ∈ run, r.OneLine) :
    (run.getD .empty).OneLine := by
  cases run with
  | none => exact ⟨nofun, nofun⟩
  | some r => exact h r rfl

theorem tells_recordReplay (hctx : ctx.OneLine) (hnames : s.OneLine) :
    Tells (recordReplay s ctx)
      ((s.record.getD .empty).result.failed.isEmpty = true ∧ s.hasTerminatedTests = false ∧
        (s.record.getD .empty).exitError = none ∧ (s.confirm.getD .empty).isClean = true) := by
  have hrecord : (s.record.getD .empty).OneLine := oneLine_getD hnames.record
  have hconfirm : (s.confirm.getD .empty).OneLine := oneLine_getD hnames.confirm
  have hlog : Unmarked ("View the [build log](" ++ ctx.logUrl "build-log/recording_test.log"
      ++ ") or the [debug log](") :=
    (Unmarked.append (.ofList (by decide)) (hctx.logUrl (.ofList (by decide)))).append
      (.ofList (by decide))
  have hlinks : Unmarked ("View the [build log](" ++ ctx.logUrl "build-log/recording_test.log"
      ++ ") or the [debug log](" ++ ctx.browserUrl "recording" ++ ") for each test") :=
    (hlog.append (hctx.browserUrl (.ofList (by decide)))).append (.ofList (by decide))
  unfold recordReplay
  refine Tells.before (Tells.behind ?_ ?_) (.gap (.cons hlinks.neutral .nil))
  · exact silent_recordedLines hctx hrecord.passed hconfirm.failed
  · exact tells_recordFaultLines hctx _ hrecord.failed

/-- The sections that every report on a run without a crash begins with. -/
theorem silent_opening (hnames : s.OneLine) (hadded : s.unexercised.OneLine) (r : RunResult) :
    ∀ ls ∈ [analytics r, affectedPackages s.surface] ++ (unexercised s.unexercised).toList,
      Silent ls := by
  refine List.forall_mem_append.2 ⟨?_, ?_⟩
  · refine List.forall_mem_cons.2 ⟨silent_analytics r, List.forall_mem_singleton.2 ?_⟩
    exact silent_affectedPackages hnames.packages
  · intro ls hls
    exact silent_unexercised hadded (Option.mem_toList.1 hls)

theorem tells_sections_of_clean (hctx : ctx.OneLine) (hnames : s.OneLine)
    (hadded : s.unexercised.OneLine) (hreplay : s.replay = some replay)
    (hf : replay.result.failed.isEmpty = true) :
    Tells ([""].intercalate (sections s ctx)) (replay.exitError = none) := by
  rw [sections_of_clean hreplay hf]
  exact Tells.intercalate (silent_opening hnames hadded _) (tells_replayClean hctx replay)

theorem tells_sections_of_failed (hctx : ctx.OneLine) (hnames : s.OneLine)
    (hadded : s.unexercised.OneLine) (hreplay : s.replay = some replay)
    (hf : replay.result.failed.isEmpty = false) :
    Tells ([""].intercalate (sections s ctx))
      ((s.record.getD .empty).result.failed.isEmpty = true ∧ s.hasTerminatedTests = false ∧
        (s.record.getD .empty).exitError = none ∧ (s.confirm.getD .empty).isClean = true) := by
  have haction : Silent (actionTaken replay.result) :=
    silent_actionTaken (hnames.replay replay hreplay).failed
  have hfront : ∀ ls ∈ [analytics replay.result, affectedPackages s.surface]
      ++ (unexercised s.unexercised).toList ++ [actionTaken replay.result], Silent ls :=
    List.forall_mem_append.2 ⟨silent_opening hnames hadded _, List.forall_mem_singleton.2 haction⟩
  rw [sections_of_failed hreplay hf]
  exact Tells.intercalate hfront (tells_recordReplay hctx hnames)

end Report

end CassetteGate
