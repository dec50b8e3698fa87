import CassetteGate.Proofs.Report.Success

/-!
# `Proofs.Report.RedLines` — what a report says in red

Trouble is reported in red. A report on a recording is long, and most of it is names: of services, of
tests and of logs. None of these lines is coloured, and the coloured ones are fixed texts, so what a
report says in red is a short list that depends on a few facts about the two phases (`redTexts`).

`Reds lines texts` says that the red lines among `lines` are those with the texts `texts`. It has a rule
for a red line in front, one for any other line in front, and one for two lists put together; each
section is then read off its definition. Names may be anything here, even hold newlines: the lines are
those that the report is made of, and a line that starts with a backquote is not red.

## Contents
- **`Pale`**, **`Reds`**: lines that are not red, and the red ones among lines.
- **`confirmReds`**, **`recordReds`**, **`redTexts`**: the red texts.
- **`reds_confirmLines`**, **`reds_recordFaultLines`**, **`reds_sections`**: the sections that may be
  red, and whole reports.
-/

namespace CassetteGate

namespace Report

variable {lines more : Lines} {l t : String} {texts moreTexts : List String} {ctx : ReportContext}

/-! ## Lines that are not red -/

/-- The line is not a red one. -/
def Pale (l : String) : Prop := ∀ t, l ≠ colored "red" t

/-- A line that starts with another character is not red, whatever follows. -/
theorem pale_append {c : Char} {cs : List Char} (hc : c ≠ '$') (t : String) :
    Pale (String.ofList (c :: cs) ++ t) := by
  intro u hred
  obtain ⟨rest, hrest⟩ := exists_toList_colored "red" u
  rw [← hred, String.toList_append, String.toList_ofList] at hrest
  exact hc (List.cons.inj hrest).1

theorem pale_ofList {c : Char} {cs : List Char} (hc : c ≠ '$') : Pale (String.ofList (c :: cs)) := by
  have h : Pale (String.ofList (c :: cs) ++ "") := pale_append hc ""
  rwa [String.append_empty] at h

theorem pale_empty : Pale "" := by
  intro u hred
  obtain ⟨rest, hrest⟩ := exists_toList_colored "red" u
  rw [← hred] at hrest
  cases hrest

theorem pale_green (t : String) : Pale (colored "green" t) := fun u => (red_ne_green u t).symm

/-! ## The red lines among others -/

/-- The red lines among `lines` are those with these texts. -/
def Reds (lines : Lines) (texts : List String) : Prop :=
  ∀ t, colored "red" t ∈ lines ↔ t ∈ texts

namespace Reds

theorem nil : Reds [] [] := fun _ => iff_of_false List.not_mem_nil List.not_mem_nil

theorem red (t : String) (h : Reds lines texts) : Reds (colored "red" t :: lines) (t :: texts) := by
  intro u
  rw [List.mem_cons, List.mem_cons, h u]
  constructor
  · rintro (hline | hmem)
    · exact Or.inl (colored_injective hline)
    · exact Or.inr hmem
  · rintro (rfl | hmem)
    · exact Or.inl rfl
    · exact Or.inr hmem

theorem pale (hl : Pale l) (h : Reds lines texts) : Reds (l :: lines) texts := by
  intro u
  rw [List.mem_cons, h u, or_iff_right]
  intro hline
  exact hl u hline.symm

/-- A fixed line that starts with another character. -/
theorem fixed {c : Char} {cs : List Char} (hc : c ≠ '$') (h : Reds lines texts) :
    Reds (String.ofList (c :: cs) :: lines) texts :=
  pale (pale_ofList hc) h

theorem gap (h : Reds lines texts) : Reds ("" :: lines) texts := pale pale_empty h

theorem append (h : Reds lines texts) (hmore : Reds more moreTexts) :
    Reds (lines ++ more) (texts ++ moreTexts) := by
  intro u
  rw [List.mem_append, List.mem_append, h u, hmore u]

/-- Lines without red ones in front. -/
theorem behind (hlines : Reds lines []) (h : Reds more texts) : Reds (lines ++ more) texts :=
  hlines.append h

/-- Lines without red ones behind. -/
theorem before (h : Reds lines texts) (hmore : Reds more []) : Reds (lines ++ more) texts := by
  have happend := h.append hmore
  rwa [List.append_nil] at happend

theorem of_pale (h : ∀ l ∈ lines, Pale l) : Reds lines [] := by
  induction lines with
  | nil => exact nil
  | cons l lines ih =>
      obtain ⟨hl, hlines⟩ := List.forall_mem_cons.1 h
      exact pale hl (ih hlines)

theorem map {names : List String} {f : String → String} (h : ∀ name, Pale (f name)) :
    Reds (names.map f) [] :=
  of_pale (List.forall_mem_map.2 fun name _ => h name)

/-- A choice is made in the same way for lines and texts. -/
theorem ite {p : Prop} [Decidable p] (h : Reds lines texts) (hmore : Reds more moreTexts) :
    Reds (if p then lines else more) (if p then texts else moreTexts) := by
  by_cases hp : p
  · rw [if_pos hp, if_pos hp]
    exact h
  · rw [if_neg hp, if_neg hp]
    exact hmore

/-- A choice between lines of which none is red. -/
theorem either {p : Prop} [Decidable p] (h : Reds lines texts) (hmore : Reds more texts) :
    Reds (if p then lines else more) texts := by
  have hchoice : Reds (if p then lines else more) (if p then texts else texts) := ite h hmore
  rwa [ite_self] at hchoice

/-- A section behind sections without red lines, with an empty line between neighbours. -/
theorem intercalate {front : List Lines} (hfront : ∀ ls ∈ front, Reds ls [])
    (h : Reds lines texts) : Reds ([""].intercalate (front ++ [lines])) texts := by
  induction front with
  | nil =>
      rw [List.nil_append, List.intercalate_singleton]
      exact h
  | cons ls front ih =>
      obtain ⟨hls, hrest⟩ := List.forall_mem_cons.1 hfront
      rw [List.cons_append, List.intercalate_cons_of_ne_nil (by simp)]
      exact behind (hls.before (gap nil)) (ih hrest)

end Reds

/-! ## Sections without red lines -/

theorem reds_analytics (r : RunResult) : Reds (analytics r) [] := by
  refine .fixed (by decide) (.pale (pale_append (by decide) _) ?_)
  refine .pale (pale_append (by decide) _) (.pale (pale_append (by decide) _) ?_)
  exact .pale (pale_append (by decide) _) .nil

theorem reds_bulletList (items : List String) : Reds (bulletList items) [] := by
  unfold bulletList
  refine .before (.fixed (by decide) (.map fun item => ?_)) (.fixed (by decide) .nil)
  rw [String.append_assoc]
  exact pale_append (by decide) _

theorem reds_affectedPackages (surface : ChangeSurface) : Reds (affectedPackages surface) [] := by
  unfold affectedPackages
  refine .before (.behind ?_ ?_) (.gap (.fixed (by decide) (.fixed (by decide) .nil)))
  · exact .fixed (by decide) (.fixed (by decide) (.fixed (by decide) (.gap .nil)))
  · refine .either (.fixed (by decide) .nil) ?_
    exact .either (.fixed (by decide) .nil) (reds_bulletList _)

theorem reds_unexercisedBlock {heading : String} (hh : Pale heading) (tests : List String) :
    Reds (unexercisedBlock heading tests) [] := by
  unfold unexercisedBlock
  exact .either .nil (.gap (.pale hh (.map fun test => pale_append (by decide) _)))

theorem reds_unexercised {tests : UnexercisedTests} (h : unexercised tests = some lines) :
    Reds lines [] := by
  unfold unexercised at h
  by_cases hnone : tests.isEmpty = true
  · rw [if_pos hnone] at h
    cases h
  · rw [if_neg hnone] at h
    obtain rfl := Option.some.inj h
    refine .behind (.fixed (by decide) ?_) ?_
    · exact reds_unexercisedBlock (pale_ofList (by decide)) _
    · exact reds_unexercisedBlock (pale_ofList (by decide)) _

theorem reds_actionTaken (replay : RunResult) : Reds (actionTaken replay) [] := by
  have hcount : Pale ("<summary>Found " ++ toString replay.failed.size
      ++ " affected test(s) by replaying old test recordings. Starting RECORDING based on the most "
      ++ "recent commit. Click here to see the affected tests</summary>") := by
    rw [String.append_assoc, String.append_assoc]
    exact pale_append (by decide) _
  unfold actionTaken
  refine .behind (.behind ?_ (reds_bulletList _)) ?_
  · exact .fixed (by decide) (.fixed (by decide) (.pale hcount (.fixed (by decide) .nil)))
  · refine .fixed (by decide) (.fixed (by decide) (.gap (.pale ?_ .nil)))
    exact pale_append (by decide) _

/-! ## Sections with red lines -/

section Recording

/-- What is said in red of the replay of fresh cassettes. -/
def confirmReds (confirm : PhaseRun) : List String :=
  if confirm.result.crashed then
    ["The provider crashed while running the VCR tests in REPLAYING mode after recording",
     "Please fix it to complete your PR"]
  else if !confirm.result.failed.isEmpty then ["Tests failed when rerunning REPLAYING mode:"]
  else if confirm.exitError.isSome then
    ["Errors occurred during REPLAYING mode after recording. "
      ++ "Please fix them to complete your PR."]
  else []

/-- What is said in red of a recording. -/
def recordReds (record : PhaseRun) (terminated : Bool) : List String :=
  if !record.result.failed.isEmpty then
    ["Tests failed during RECORDING mode:"]
    ++ (if terminated then ["Several tests got terminated during RECORDING mode."] else [])
    ++ (if record.exitError.isSome then
          ["Errors occurred during RECORDING mode. Please fix them to complete your PR."]
        else [])
    ++ ["Please fix these to complete your PR."]
  else if terminated then ["Several tests got terminated during RECORDING mode."]
  else if record.exitError.isSome then
    ["Errors occurred during RECORDING mode. Please fix them to complete your PR."]
  else []

/-- What is said in red of both. -/
def redTexts (record confirm : PhaseRun) (terminated : Bool) : List String :=
  (if record.result.passed.isEmpty then [] else confirmReds confirm) ++ recordReds record terminated

theorem pale_failureLine (errorLog debugLog test : String) :
    Pale (failureLine ctx errorLog debugLog test) := by
  unfold failureLine
  simp only [String.append_assoc]
  exact pale_append (by decide) _

variable {record confirm : PhaseRun}

theorem reds_confirmLines : Reds (confirmLines confirm ctx) (confirmReds confirm) := by
  unfold confirmLines confirmReds
  refine .ite ?_ (.ite ?_ (.ite (.red _ .nil) (.pale (pale_green _) .nil)))
  · refine .red _ (.red _ (.gap (.pale ?_ .nil)))
    unfold buildLogLink
    rw [String.append_assoc]
    exact pale_append (by decide) _
  · refine .before (.red _ (.map fun test => pale_failureLine _ _ _)) ?_
    refine .gap (.pale (pale_append (by decide) _) (.gap (.pale ?_ .nil)))
    rw [String.append_assoc]
    exact pale_append (by decide) _

theorem reds_recordedLines :
    Reds (recordedLines record confirm ctx)
      (if record.result.passed.isEmpty then [] else confirmReds confirm) := by
  unfold recordedLines
  refine .ite .nil (.before (.behind (.before ?_ (.gap .nil)) reds_confirmLines) ?_)
  · refine .pale (pale_green _) (.map fun test => ?_)
    unfold debugLine
    simp only [String.append_assoc]
    exact pale_append (by decide) _
  · exact .gap (.fixed (by decide) (.gap .nil))

/-- Behind the names of failed tests all faults are told; without such names only the first is. -/
theorem reds_recordFaultLines (terminated : Bool) :
    Reds (recordFaultLines record confirm terminated ctx) (recordReds record terminated) := by
  have hterminated : Reds [terminatedLine] ["Several tests got terminated during RECORDING mode."] :=
    .red _ .nil
  have herror : Reds [recordErrorLine]
      ["Errors occurred during RECORDING mode. Please fix them to complete your PR."] :=
    .red _ .nil
  unfold recordFaultLines recordReds
  refine .ite ?_ (.ite hterminated (.ite herror (.either (.pale (pale_green _) .nil) .nil)))
  refine .append (.append (.append (.before (.red _ ?_) (.gap .nil)) (.ite hterminated .nil))
    (.ite herror .nil)) (.red _ .nil)
  exact .map fun test => pale_failureLine _ _ _

end Recording

/-! ## Whole reports -/

variable {s : RunState} {replay : PhaseRun}

theorem reds_recordReplay :
    Reds (recordReplay s ctx)
      (redTexts (s.record.getD .empty) (s.confirm.getD .empty) s.hasTerminatedTests) := by
  unfold recordReplay redTexts
  refine .before (.append reds_recordedLines (reds_recordFaultLines _)) (.gap (.pale ?_ .nil))
  simp only [String.append_assoc]
  exact pale_append (by decide) _

/-- **What the report on a recording says in red.** -/
theorem reds_sections (hreplay : s.replay = some replay)
    (hf : replay.result.failed.isEmpty = false) :
    Reds ([""].intercalate (sections s ctx))
      (redTexts (s.record.getD .empty) (s.confirm.getD .empty) s.hasTerminatedTests) := by
  have hfront : ∀ ls ∈ [analytics replay.result, affectedPackages s.surface]
      ++ (unexercised s.unexercised).toList ++ [actionTaken replay.result], Reds ls [] := by
    refine List.forall_mem_append.2 ⟨List.forall_mem_append.2 ⟨?_, ?_⟩, ?_⟩
    · refine List.forall_mem_cons.2 ⟨reds_analytics _, List.forall_mem_singleton.2 ?_⟩
      exact reds_affectedPackages _
    · intro ls hls
      exact reds_unexercised (Option.mem_toList.1 hls)
    · exact List.forall_mem_singleton.2 (reds_actionTaken _)
  rw [sections_of_failed hreplay hf]
  exact Reds.intercalate hfront reds_recordReplay

end Report

end CassetteGate
