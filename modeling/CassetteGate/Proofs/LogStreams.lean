import CassetteGate.Command
import CassetteGate.Proofs.LogGrammar
import CassetteGate.Proofs.Results.Merged

/-!
# `Proofs.LogStreams` — logs that are put together from several texts

A log is seldom the output of one stream: standard error follows standard output, and the log of a
phase is put together from the outputs of its processes. The result of such a log should be what its
parts report, taken together.

Reading goes by lines, and a line is read by its start. So everything depends on where one text ends and
the next begins. If the first ends its line, then the lines of both are those of the first and those of
the second, up to an empty one, which says nothing (`found_append`), and the results agree
(`parse_join`). If it does not, then the last line of the first text and the first of the second become
one line, and there is always a text that is lost in that way: a panic behind half a line is no panic
(`endsLine_of_parse_append`). A process joins its streams with a newline where one is missing, so
nothing of either is lost (`parse_combined`).

## Contents
- **`EndsLine`**, `exists_lastLine`: whether a text leaves a line open.
- **`found`**, **`found_append`**, **`found_join`**: reading by lines.
- **`parse_join`**, **`parse_append_iff`**, **`parse_combined`**: results.
- **`parse_streams`**: texts in sequence, and the streams of a process.
-/

namespace CassetteGate.TestLog

open Text

/-! ## Open lines -/

/-- The text leaves no line open: it is empty, or a newline ends it. -/
def EndsLine (text : String) : Prop := text = "" ∨ ∃ front, text = front ++ "\n"

/-- Each text is followed by another only if it leaves no line open. -/
def OnOwnLines (texts : List String) : Prop :=
  texts.Pairwise fun text later => EndsLine text ∨ later = ""

theorem endsLine_iff {text : String} :
    EndsLine text ↔ (text.isEmpty || endsWith text "\n") = true := by
  unfold EndsLine
  rw [Bool.or_eq_true, String.isEmpty_iff, endsWith_iff]

instance (text : String) : Decidable (EndsLine text) := decidable_of_iff _ endsLine_iff.symm

instance (texts : List String) : Decidable (OnOwnLines texts) :=
  inferInstanceAs (Decidable (texts.Pairwise fun text later => EndsLine text ∨ later = ""))

/-- Every text is some finished lines and an open one, which may be empty. -/
theorem exists_lastLine (text : String) :
    ∃ front last, text = front ++ last ∧ EndsLine front ∧ '\n' ∉ last.toList := by
  suffices h : ∀ cs : List Char, ∃ front last : String,
      String.ofList cs = front ++ last ∧ EndsLine front ∧ '\n' ∉ last.toList by
    simpa using h text.toList
  intro cs
  -- one character more belongs to the open line, or finishes it
  induction cs using List.reverseRecOn with
  | nil => exact ⟨"", "", rfl, .inl rfl, by simp⟩
  | append_singleton cs c ih =>
      obtain ⟨front, last, hcs, hfront, hlast⟩ := ih
      by_cases hc : c = '\n'
      · subst hc
        refine ⟨String.ofList cs ++ "\n", "", ?_, .inr ⟨_, rfl⟩, by simp⟩
        rw [← String.toList_inj]
        simp
      · refine ⟨front, last ++ String.singleton c, ?_, hfront, ?_⟩
        · rw [String.ofList_append, hcs, String.append_assoc]
          rfl
        · rw [String.toList_append, List.mem_append, not_or]
          exact ⟨hlast, by simpa using Ne.symm hc⟩

/-! ## Reading by lines -/

section Readers

variable {α : Type} {read : List Char → Option α} {front behind line : String} {texts : List String}

/-- What a reader of lines finds in a text, in order. -/
def found (read : List Char → Option α) (text : String) : List α :=
  (splitLines text.toList).filterMap read

theorem found_empty (hread : read [] = none) : found read "" = [] := by
  unfold found
  rw [String.toList_empty, splitLines_nil, List.filterMap_cons_none hread, List.filterMap_nil]

theorem found_line (hline : '\n' ∉ line.toList) : found read line = (read line.toList).toList := by
  unfold found
  rw [splitLines_of_newline_notMem hline]
  cases hread : read line.toList with
  | none => exact List.filterMap_cons_none hread
  | some a => exact List.filterMap_cons_some hread

theorem found_newline (front behind : String) :
    found read (front ++ "\n" ++ behind) = found read front ++ found read behind := by
  have hlist : (front ++ "\n" ++ behind).toList = front.toList ++ '\n' :: behind.toList := by simp
  unfold found
  rw [hlist, splitLines_append_newline, List.filterMap_append]

/-- A newline at the end adds an empty line, which says nothing. -/
theorem found_append_newline (hread : read [] = none) (front : String) :
    found read (front ++ "\n") = found read front := by
  have h : found read (front ++ "\n" ++ "") = found read front ++ found read "" :=
    found_newline front ""
  rwa [String.append_empty, found_empty hread, List.append_nil] at h

/-- **Behind a text that leaves no line open, a text is read for itself.** -/
theorem found_append (hread : read [] = none) (h : EndsLine front ∨ behind = "") :
    found read (front ++ behind) = found read front ++ found read behind := by
  rcases h with (rfl | ⟨lines, rfl⟩) | rfl
  · rw [String.empty_append, found_empty hread, List.nil_append]
  · rw [found_newline, found_append_newline hread]
  · rw [String.append_empty, found_empty hread, List.append_nil]

/-- So are any number of texts. -/
theorem found_join (hread : read [] = none) (h : OnOwnLines texts) :
    found read (String.join texts) = texts.flatMap (found read) := by
  induction texts with
  | nil => exact found_empty hread
  | cons text texts ih =>
      obtain ⟨htext, htexts⟩ := List.pairwise_cons.1 h
      have hclosed : EndsLine text ∨ String.join texts = "" := by
        by_cases hends : EndsLine text
        · exact .inl hends
        · -- then nothing is printed behind it
          have hnone : ∀ later ∈ texts, later = "" := fun later hlater =>
            (htext later hlater).resolve_left hends
          rw [List.eq_replicate_of_mem hnone, ← String.toList_inj]
          simp
      rw [String.join_cons, found_append hread hclosed, ih htexts, List.flatMap_cons]

end Readers

/-! ## Results -/

variable {text : String} {texts : List String}

theorem report?_nil : report? [] = none := by decide

theorem panic?_nil : panic? [] = none := by decide

theorem reported_join {outcome : TestOutcome} {name : String} (h : OnOwnLines texts) :
    Reported (String.join texts) outcome name ↔ ∃ text ∈ texts, Reported text outcome name := by
  have hreports : reports (String.join texts).toList = texts.flatMap (found report?) :=
    found_join report?_nil h
  rw [← mem_reports_iff, hreports, List.mem_flatMap]
  exact exists_congr fun text => and_congr_right fun _ => mem_reports_iff

/-- **Texts that leave no line open to each other add up to what they say, taken together.** -/
theorem parse_join (h : OnOwnLines texts) :
    parse (String.join texts) = RunResult.merge (texts.map parse) := by
  have hparts := RunResult.worstOf_merge_map fun text (_ : text ∈ texts) => worstOf_parse text
  have hpanics : (parse (String.join texts)).panics = texts.flatMap (found panic?) :=
    found_join panic?_nil h
  apply (worstOf_parse (String.join texts)).unique (hparts.congr fun o n => (reported_join h).symm)
  rw [hpanics, RunResult.panics_merge, List.flatMap_map]
  rfl

theorem parse_append {front behind : String} (h : EndsLine front ∨ behind = "") :
    parse (front ++ behind) = RunResult.merge [parse front, parse behind] := by
  have hlines : OnOwnLines [front, behind] := List.pairwise_pair.2 h
  have hjoin : String.join [front, behind] = front ++ behind := by
    rw [String.join_cons, String.join_cons, String.join_nil, String.append_empty]
  rw [← hjoin, parse_join hlines]
  rfl

theorem parse_empty : parse "" = RunResult.merge [] := by decide +kernel

/-- What a log adds up to is what it adds up to alone. -/
theorem merge_parse (text : String) : RunResult.merge [parse text] = parse text := by
  have hone := parse_join (List.pairwise_singleton _ text)
  rw [String.join_cons, String.join_nil, String.append_empty, List.map_singleton] at hone
  exact hone.symm

theorem parse_append_newline (text : String) : parse (text ++ "\n") = parse text := by
  have hreports : reports (text ++ "\n").toList = reports text.toList :=
    found_append_newline report?_nil text
  have hpanics : panics (text ++ "\n").toList = panics text.toList :=
    found_append_newline panic?_nil text
  unfold parse
  rw [hreports, hpanics]

/-- Behind something else on its line, a panic is lost: the line is another panic, or none. -/
theorem panic?_behind_ne {last : List Char} (hopen : last ≠ []) :
    (panic? (last ++ "panic: x".toList)).toList ≠ (panic? last).toList ++ ["panic: x"] := by
  have htrim : trimEnd (last ++ "panic: x".toList) = last ++ "panic: x".toList := by
    refine trimEnd_eq_iff.2 ⟨⟨[], (List.append_nil _).symm, nofun⟩, ?_⟩
    have hlast : "panic: x".toList.getLast? = some 'x' := by decide
    rw [List.getLast?_append_of_ne_nil last (by decide), hlast]
    rintro c ⟨⟩
    decide
  intro h
  rw [panic?_eq, htrim] at h
  split at h
  · -- one panic, so it would have to be the second text by itself
    have hlength := congrArg List.length h
    rw [List.length_append, List.length_singleton] at hlength
    have hnone : (panic? last).toList = [] :=
      List.length_eq_zero_iff.1 (Nat.succ.inj hlength).symm
    rw [hnone] at h
    have hlist := congrArg String.toList (List.singleton_inj.1 h)
    rw [String.toList_ofList] at hlist
    exact hopen (List.append_left_eq_self.1 hlist)
  · exact absurd h.symm (List.append_ne_nil_of_right_ne_nil _ (List.cons_ne_nil _ _))

/-- A text that every text can follow leaves no line open: a panic would be lost behind it. -/
theorem endsLine_of_parse_append
    (h : ∀ next, parse (text ++ next) = RunResult.merge [parse text, parse next]) :
    EndsLine text := by
  obtain ⟨front, last, rfl, hfront, hlast⟩ := exists_lastLine text
  have hglued : '\n' ∉ (last ++ "panic: x").toList := by
    rw [String.toList_append, List.mem_append, not_or]
    exact ⟨hlast, by decide⟩
  have hfirst : (parse (front ++ last)).panics =
      found panic? front ++ (panic? last.toList).toList := by
    rw [← found_line hlast]
    exact found_append panic?_nil (.inl hfront)
  have hboth : (parse (front ++ last ++ "panic: x")).panics =
      found panic? front ++ (panic? (last.toList ++ "panic: x".toList)).toList := by
    rw [← String.toList_append, ← found_line hglued, String.append_assoc]
    exact found_append panic?_nil (.inl hfront)
  have hsecond : (parse "panic: x").panics = ["panic: x"] := by decide +kernel
  have hpanics := congrArg RunResult.panics (h "panic: x")
  simp only [RunResult.panics_merge, List.flatMap_cons, List.flatMap_nil, List.append_nil, hfirst,
    hboth, hsecond, List.append_assoc, List.append_cancel_left_eq] at hpanics
  by_cases hopen : last.toList = []
  · rw [String.toList_eq_nil_iff.1 hopen, String.append_empty]
    exact hfront
  · exact absurd hpanics (panic?_behind_ne hopen)

/-- **A text can be followed by any other exactly if it leaves no line open.** -/
theorem parse_append_iff :
    (∀ next, parse (text ++ next) = RunResult.merge [parse text, parse next]) ↔ EndsLine text :=
  ⟨endsLine_of_parse_append, fun h _ => parse_append (.inl h)⟩

/-! ## The streams of a process -/

/-- **The output of a process adds up to what both of its streams say**, standard output first. -/
theorem parse_combined (output : CommandOutput) :
    parse output.combined = RunResult.merge [parse output.stdout, parse output.stderr] := by
  unfold CommandOutput.combined
  split
  · next hquiet =>
      rw [String.isEmpty_iff] at hquiet
      rw [← parse_append (.inr hquiet), hquiet, String.append_empty]
  · split
    · next hends => exact parse_append (.inl (endsLine_iff.2 hends))
    · rw [parse_append (.inl (.inr ⟨_, rfl⟩)), parse_append_newline]

/-- **Logs that are put together lose nothing and make nothing up** exactly where no line is left open:
    a text can be followed by any other if and only if it is empty or ends in a newline. The streams
    of a process are put together in that way, whatever they print, so what a process says is what both
    of its streams say; and so it is with the panics, in order. -/
theorem parse_streams :
    (∀ first, EndsLine first ↔
      ∀ second, parse (first ++ second) = RunResult.merge [parse first, parse second]) ∧
    ∀ output : CommandOutput,
      parse output.combined = RunResult.merge [parse output.stdout, parse output.stderr] :=
  ⟨fun _ => parse_append_iff.symm, parse_combined⟩

example : (parse (CommandOutput.combined ⟨some 2, "--- PASS: TestAccA (0s)\npanic: a", "panic: b", 0,
    false⟩)).panics = ["panic: a", "panic: b"] := by decide +kernel

end CassetteGate.TestLog
