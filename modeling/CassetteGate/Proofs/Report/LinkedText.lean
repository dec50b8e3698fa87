import CassetteGate.Proofs.Report.Lines
import CassetteGate.Proofs.Surface
import CassetteGate.Proofs.TestLog

/-!
# `Proofs.Report.LinkedText` — what the links of a report point to

A report is marked-up text, and its links stand between `](` and `)`. What they point to is made of the
names of buckets, branches and builds, which may be any texts, and even hold parentheses; so the links
are not found by reading the text, but are told apart when it is written. `LinksTo good text` says that
the text can be cut into links to what is `good` and pieces between them in which no link can start, as
they do not hold `https://` anywhere.

Names of tests and services are the only other foreign texts in a report. They cannot hold a link because
they hold no slash, and a text that is put together from pieces around a character other than those of
`https://` holds a link only if one of the pieces does (`plain_append_cons`). From there each section is
read off its lines, as in `Proofs.Report.Success`.

## Contents
- **`Plain`**, **`NoSlash`**: pieces in which no link can start.
- **`LinksTo`**, **`LinksTo.exists_of_cut`**, **`LinksTo.append_newline`**, **`linksTo_text`**: texts
  and lines.
- **`linked_analytics`** … **`linked_crash`**, **`RecordLinks`**, **`ConfirmLinks`**: sections, and what
  their links have to point to.
- **`linked_sections_of_clean`**, **`linked_sections_of_failed`**: whole reports.
- **`isTestName_of_mem_addedTests`**, **`noSlash_of_mem_packages`**: the names that a report cites.
-/

namespace CassetteGate

open Text

namespace Report

/-! ## Pieces without links -/

/-- What every link of a report starts with. -/
def scheme : List Char := ['h', 't', 't', 'p', 's', ':', '/', '/']

/-- No link starts anywhere in the text. -/
def Plain (s : String) : Prop := occursIn scheme s.toList = false

instance (s : String) : Decidable (Plain s) := inferInstanceAs (Decidable (_ = false))

/-- Whether a text starts with `needle` is decided in front of a character that is not in it. -/
theorem isSome_after?_append {needle : List Char} {c : Char} (hc : c ∉ needle)
    (front behind : List Char) :
    (after? needle (front ++ c :: behind)).isSome = (after? needle front).isSome := by
  induction needle generalizing front with
  | nil => rfl
  | cons n ns ih =>
      obtain ⟨hn, hns⟩ := not_or.1 (mt List.mem_cons.2 hc)
      cases front with
      | nil =>
          show (after? (n :: ns) (c :: behind)).isSome = (after? (n :: ns) []).isSome
          unfold after?
          rw [if_neg (Ne.symm hn)]
      | cons f front =>
          show (after? (n :: ns) (f :: (front ++ c :: behind))).isSome
            = (after? (n :: ns) (f :: front)).isSome
          unfold after?
          by_cases hf : n = f
          · rw [if_pos hf, if_pos hf, ih hns front]
          · rw [if_neg hf, if_neg hf]

/-- A text occurs around a character that is not in it only in front of it or behind it. -/
theorem occursIn_append_cons {needle : List Char} {c : Char} (hc : c ∉ needle)
    (front behind : List Char) :
    occursIn needle (front ++ c :: behind) = (occursIn needle front || occursIn needle behind) := by
  induction front with
  | nil =>
      have hstart := isSome_after?_append hc [] behind
      show ((after? needle (c :: behind)).isSome || occursIn needle behind) = _
      rw [List.nil_append] at hstart
      rw [hstart]
      cases needle <;> rfl
  | cons f front ih =>
      have hstart := isSome_after?_append hc (f :: front) behind
      show ((after? needle (f :: (front ++ c :: behind))).isSome
        || occursIn needle (front ++ c :: behind)) = _
      rw [List.cons_append] at hstart
      rw [hstart, ih, ← Bool.or_assoc]
      rfl

variable {a b lead url rest name : String} {good : String → Prop}

theorem plain_append_cons {c : Char} {cs : List Char} (hc : c ∉ scheme) (ha : Plain a)
    (hb : occursIn scheme cs = false) : Plain (a ++ String.ofList (c :: cs)) := by
  unfold Plain at ha ⊢
  rw [String.toList_append, String.toList_ofList, occursIn_append_cons hc, ha, hb]
  rfl

theorem plain_append_newline (ha : Plain a) (hb : Plain b) : Plain (a ++ "\n" ++ b) := by
  unfold Plain at ha hb ⊢
  rw [String.append_assoc, String.toList_append, String.toList_append]
  show occursIn scheme (a.toList ++ '\n' :: b.toList) = false
  rw [occursIn_append_cons (by decide), ha, hb]
  rfl

/-- The text has no slash. -/
def NoSlash (s : String) : Prop := '/' ∉ s.toList

theorem noSlash_append (ha : NoSlash a) (hb : NoSlash b) : NoSlash (a ++ b) := by
  unfold NoSlash
  rw [String.toList_append, List.mem_append, not_or]
  exact ⟨ha, hb⟩

theorem noSlash_ofList {cs : List Char} (h : '/' ∉ cs) : NoSlash (String.ofList cs) := by
  unfold NoSlash
  rwa [String.toList_ofList]

theorem noSlash_toString (n : Nat) : NoSlash (toString n) := by
  intro hmem
  rw [Nat.toString_eq_repr, Nat.toList_repr] at hmem
  have hdigit : '/'.isDigit = true := Nat.isDigit_of_mem_toDigits (by decide) (by decide) hmem
  exact absurd hdigit (by decide)

theorem plain_of_noSlash (h : NoSlash a) : Plain a := by
  unfold Plain
  rw [Bool.eq_false_iff]
  intro hlink
  obtain ⟨before, behind, hcut⟩ := occursIn_iff.1 hlink
  apply h
  rw [hcut, List.mem_append, List.mem_append]
  exact Or.inl (Or.inr (by decide))

theorem plain_ofList {cs : List Char} (h : occursIn scheme cs = false) : Plain (String.ofList cs) := by
  unfold Plain
  rwa [String.toList_ofList]

/-! ## Texts with links -/

/-- The text links to what is good, and to nothing else. -/
inductive LinksTo (good : String → Prop) : String → Prop where
  /-- There are no links. -/
  | plain {s : String} (h : Plain s) : LinksTo good s
  /-- The first link is good. -/
  | link {lead url rest : String} (hlead : Plain lead) (hopen : Text.endsWith lead "](" = true)
      (hurl : good url) (hclose : Text.startsWith rest ")" = true) (hrest : LinksTo good rest) :
      LinksTo good (lead ++ url ++ rest)

theorem endsWith_append {tail : String} (h : Text.endsWith b tail = true) :
    Text.endsWith (a ++ b) tail = true := by
  obtain ⟨start, rfl⟩ := endsWith_iff.1 h
  exact endsWith_iff.2 ⟨a ++ start, String.append_assoc.symm⟩

theorem startsWith_append {front : String} (h : Text.startsWith a front = true) :
    Text.startsWith (a ++ b) front = true := by
  obtain ⟨rest, rfl⟩ := startsWith_iff.1 h
  exact startsWith_iff.2 ⟨rest ++ b, String.append_assoc⟩

namespace LinksTo

/-- Texts that link to what is good make lines that do. -/
theorem append_newline (ha : LinksTo good a) (hb : LinksTo good b) :
    LinksTo good (a ++ "\n" ++ b) := by
  induction ha with
  | @plain s hs =>
      -- a piece without links goes with whatever the next line begins with
      cases hb with
      | plain hb => exact .plain (plain_append_newline hs hb)
      | @link lead url rest hlead hopen hurl hclose hrest =>
          have hline : s ++ "\n" ++ (lead ++ url ++ rest) = (s ++ "\n" ++ lead) ++ url ++ rest := by
            simp only [String.append_assoc]
          rw [hline]
          exact .link (plain_append_newline hs hlead) (endsWith_append hopen) hurl hclose hrest
  | @link lead url rest hlead hopen hurl hclose hrest ih =>
      have hline : lead ++ url ++ rest ++ "\n" ++ b = lead ++ url ++ (rest ++ "\n" ++ b) := by
        simp only [String.append_assoc]
      rw [hline]
      exact .link hlead hopen hurl (startsWith_append (startsWith_append hclose)) ih

/-- A text with a single link. -/
theorem single (hlead : Plain lead) (hopen : Text.endsWith lead "](" = true) (hurl : good url)
    (hrest : Plain rest) (hclose : Text.startsWith rest ")" = true) :
    LinksTo good (lead ++ url ++ rest) :=
  .link hlead hopen hurl hclose (.plain hrest)

end LinksTo

/-- In front of a link, no other one has started. -/
theorem not_plain_of_cut {x a y z : List Char} (hopen : endsWith lead "](" = true)
    (hlead : lead.toList = x ++ a) (ha : a ≠ []) (hcut : scheme ++ y = a ++ z) : ¬ Plain lead := by
  obtain ⟨start, rfl⟩ := endsWith_iff.1 hopen
  have hparen : '(' ∈ a := by
    have hend : (start ++ "](").toList.getLast? = some '(' := by
      rw [String.toList_append, List.getLast?_append]
      rfl
    rw [hlead, List.getLast?_append, List.getLast?_eq_some_getLast ha, Option.some_or] at hend
    rw [← Option.some.inj hend]
    exact List.getLast_mem ha
  rcases List.append_eq_append_iff.1 hcut with ⟨behind, hbehind, -⟩ | ⟨behind, hscheme, -⟩
  · unfold Plain
    rw [hlead, hbehind, Bool.not_eq_false]
    exact occursIn_iff.2 ⟨x, behind, by rw [List.append_assoc]⟩
  · have : '(' ∈ scheme := hscheme ▸ List.mem_append_left _ hparen
    exact absurd this (by decide)

/-- **Wherever a link starts in such a text, it starts in one of the good ones.** -/
theorem LinksTo.exists_of_cut {s : String} (h : LinksTo good s) {x y : List Char}
    (hcut : s.toList = x ++ (scheme ++ y)) :
    ∃ lead url rest, s = lead ++ url ++ rest ∧ Text.endsWith lead "](" = true ∧ good url ∧
      Text.startsWith rest ")" = true ∧
      lead.toList.length ≤ x.length ∧ x.length < lead.toList.length + url.toList.length := by
  induction h generalizing x with
  | plain hs =>
      unfold Plain at hs
      rw [hcut] at hs
      have : occursIn scheme (x ++ (scheme ++ y)) = true :=
        occursIn_iff.2 ⟨x, y, by rw [List.append_assoc]⟩
      exact absurd (this.symm.trans hs) nofun
  | @link lead url rest hlead hopen hurl hclose hrest ih =>
      rw [String.toList_append, String.toList_append, List.append_assoc] at hcut
      -- the link does not start in what is in front of the first one
      obtain ⟨u, rfl, hbehind⟩ : ∃ u, x = lead.toList ++ u ∧
          url.toList ++ rest.toList = u ++ (scheme ++ y) := by
        rcases List.append_eq_append_iff.1 hcut with hbehind | ⟨u, hl, hz⟩
        · exact hbehind
        · by_cases hu : u = []
          · subst hu
            exact ⟨[], by rw [hl, List.append_nil, List.append_nil], hz.symm⟩
          · exact absurd hlead (not_plain_of_cut hopen hl hu hz)
      by_cases hlength : u.length < url.toList.length
      · refine ⟨lead, url, rest, rfl, hopen, hurl, hclose, ?_, ?_⟩
        · rw [List.length_append]
          exact Nat.le_add_right _ _
        · rw [List.length_append]
          exact Nat.add_lt_add_left hlength _
      · obtain ⟨v, rfl, hv⟩ : ∃ v, u = url.toList ++ v ∧ rest.toList = v ++ (scheme ++ y) := by
          rcases List.append_eq_append_iff.1 hbehind with hin | ⟨v, hu, hv⟩
          · exact hin
          · rw [hu, List.length_append] at hlength
            obtain rfl : v = [] := List.length_eq_zero_iff.1 (by omega)
            exact ⟨[], by rw [hu, List.append_nil, List.append_nil], hv.symm⟩
        obtain ⟨lead', url', rest', rfl, hopen', hurl', hclose', hle, hlt⟩ := ih hv
        refine ⟨lead ++ url ++ lead', url', rest', ?_, endsWith_append hopen', hurl', hclose', ?_, ?_⟩
        · simp only [String.append_assoc]
        · simp only [String.toList_append, List.length_append]
          omega
        · simp only [String.toList_append, List.length_append]
          omega

/-- Each of the lines links to what is good. -/
def Linked (good : String → Prop) (lines : Lines) : Prop := ∀ l ∈ lines, LinksTo good l

/-- **A text links to what is good if its lines do.** -/
theorem linksTo_text {lines : Lines} (h : Linked good lines) : LinksTo good (text lines) := by
  unfold text
  induction lines with
  | nil => exact .plain (by decide)
  | cons l lines ih =>
      obtain ⟨hl, hlines⟩ := List.forall_mem_cons.1 h
      cases lines with
      | nil =>
          rw [String.intercalate_singleton]
          exact hl
      | cons m ms =>
          rw [String.intercalate_cons_cons]
          exact hl.append_newline (ih hlines)

namespace Linked

variable {lines more : Lines} {l : String}

theorem nil : Linked good [] := List.forall_mem_nil _

theorem cons (hl : LinksTo good l) (h : Linked good lines) : Linked good (l :: lines) :=
  List.forall_mem_cons.2 ⟨hl, h⟩

theorem append (h : Linked good lines) (hmore : Linked good more) : Linked good (lines ++ more) :=
  List.forall_mem_append.2 ⟨h, hmore⟩

/-- A line without a slash. -/
theorem bare (hl : NoSlash l) (h : Linked good lines) : Linked good (l :: lines) :=
  cons (.plain (plain_of_noSlash hl)) h

/-- A fixed line. -/
theorem fixed {cs : List Char} (hl : occursIn scheme cs = false) (h : Linked good lines) :
    Linked good (String.ofList cs :: lines) :=
  cons (.plain (plain_ofList hl)) h

theorem map {names : List String} {f : String → String}
    (h : ∀ name ∈ names, LinksTo good (f name)) : Linked good (names.map f) :=
  List.forall_mem_map.2 h

theorem ite {p : Prop} [Decidable p] (h : p → Linked good lines) (hmore : ¬ p → Linked good more) :
    Linked good (if p then lines else more) := by
  by_cases hp : p
  · rw [if_pos hp]
    exact h hp
  · rw [if_neg hp]
    exact hmore hp

/-- Sections with an empty line between neighbours. -/
theorem intercalate {parts : List Lines} (h : ∀ ls ∈ parts, Linked good ls) :
    Linked good ([""].intercalate parts) := by
  induction parts with
  | nil => exact nil
  | cons ls parts ih =>
      obtain ⟨hls, hparts⟩ := List.forall_mem_cons.1 h
      cases parts with
      | nil =>
          rw [List.intercalate_singleton]
          exact hls
      | cons m ms =>
          rw [List.intercalate_cons_cons]
          exact (hls.append (fixed (by decide) nil)).append (ih hparts)

end Linked

/-! ## Sections -/

variable {ctx : ReportContext}

theorem noSlash_colored {color t : String} (hcolor : NoSlash color) (h : NoSlash t) :
    NoSlash (colored color t) := by
  have hlead : NoSlash ("$\\textcolor\x7b" ++ color ++ "\x7d\x7b\\textsf\x7b") :=
    noSlash_append (noSlash_append (noSlash_ofList (by decide)) hcolor) (noSlash_ofList (by decide))
  exact noSlash_append (noSlash_append hlead h) (noSlash_ofList (by decide))

theorem noSlash_red {cs : List Char} (h : '/' ∉ cs) : NoSlash (colored "red" (String.ofList cs)) :=
  noSlash_colored (noSlash_ofList (by decide)) (noSlash_ofList h)

theorem noSlash_green {cs : List Char} (h : '/' ∉ cs) :
    NoSlash (colored "green" (String.ofList cs)) :=
  noSlash_colored (noSlash_ofList (by decide)) (noSlash_ofList h)

theorem noSlash_count {cs : List Char} (h : '/' ∉ cs) (n : Nat) :
    NoSlash (String.ofList cs ++ toString n) :=
  noSlash_append (noSlash_ofList h) (noSlash_toString n)

theorem linked_analytics (r : RunResult) : Linked good (analytics r) := by
  refine .fixed (by decide) (.bare (noSlash_count (by decide) _) ?_)
  refine .bare (noSlash_count (by decide) _) (.bare (noSlash_count (by decide) _) ?_)
  exact .bare (noSlash_count (by decide) _) .nil

theorem linked_bulletList {items : List String} (h : ∀ item ∈ items, NoSlash item) :
    Linked good (bulletList items) := by
  unfold bulletList
  refine .append (.cons (.plain (by decide)) (.map fun item hitem => ?_)) (.fixed (by decide) .nil)
  have hfront : NoSlash ("<li>" ++ item) := noSlash_append (noSlash_ofList (by decide)) (h item hitem)
  exact .plain (plain_append_cons (by decide) (plain_of_noSlash hfront) (by decide))

theorem linked_affectedPackages {surface : ChangeSurface}
    (h : surface.fullSweep = false → ∀ name ∈ surface.packages, NoSlash name) :
    Linked good (affectedPackages surface) := by
  unfold affectedPackages
  refine .append (.append ?_ ?_) ?_
  · exact .fixed (by decide) (.fixed (by decide) (.fixed (by decide) (.fixed (by decide) .nil)))
  · refine .ite (fun _ => .fixed (by decide) .nil) fun hsweep => ?_
    exact .ite (fun _ => .fixed (by decide) .nil) fun _ => linked_bulletList (h (by simpa using hsweep))
  · exact .fixed (by decide) (.fixed (by decide) (.fixed (by decide) .nil))

theorem linked_unexercisedBlock {heading : String} {tests : List String} (hh : NoSlash heading)
    (h : ∀ test ∈ tests, NoSlash test) : Linked good (unexercisedBlock heading tests) := by
  unfold unexercisedBlock
  refine .ite (fun _ => .nil) fun _ => .fixed (by decide) (.bare hh (.map fun test htest => ?_))
  exact .plain (plain_of_noSlash (noSlash_append (noSlash_ofList (by decide)) (h test htest)))

/-- The names of tests that were not run have no slash. -/
structure NoSlashes (tests : UnexercisedTests) : Prop where
  /-- Those added to the beta provider. -/
  beta : ∀ test ∈ tests.beta, NoSlash test
  /-- Those added to the general provider only. -/
  ga : ∀ test ∈ tests.ga, NoSlash test

theorem linked_unexercised {tests : UnexercisedTests} {lines : Lines} (h : NoSlashes tests)
    (hlines : unexercised tests = some lines) : Linked good lines := by
  unfold unexercised at hlines
  by_cases hnone : tests.isEmpty = true
  · rw [if_pos hnone] at hlines
    cases hlines
  · rw [if_neg hnone] at hlines
    obtain rfl := Option.some.inj hlines
    refine .append (.fixed (by decide) ?_) ?_
    · exact linked_unexercisedBlock (noSlash_ofList (by decide)) h.beta
    · exact linked_unexercisedBlock (noSlash_ofList (by decide)) h.ga

/-- Where one can read about record and replay tests. -/
def docsUrl : String :=
  "https://googlecloudplatform.github.io/magic-modules/docs/"
    ++ "getting-started/contributing/#general-contributing-steps"

theorem linksTo_contributingLink (hdocs : good docsUrl) : LinksTo good contributingLink := by
  have hlink : contributingLink = "[Get to know how VCR tests work](" ++ docsUrl ++ ")" := by
    decide +kernel
  rw [hlink]
  exact .single (by decide) (by decide) hdocs (by decide) (by decide)

theorem linked_actionTaken {replay : RunResult} (h : ∀ test ∈ replay.failed, NoSlash test)
    (hdocs : good docsUrl) : Linked good (actionTaken replay) := by
  have hcount : NoSlash ("<summary>Found " ++ toString replay.failed.size
      ++ " affected test(s) by replaying old test recordings. Starting RECORDING based on the most ") :=
    noSlash_append (noSlash_count (by decide) _) (noSlash_ofList (by decide))
  unfold actionTaken
  refine .append (.append ?_ (linked_bulletList h)) ?_
  · refine .fixed (by decide) (.fixed (by decide) (.cons (.plain ?_) (.fixed (by decide) .nil)))
    exact plain_append_cons (by decide) (plain_of_noSlash hcount) (by decide)
  · refine .fixed (by decide) (.fixed (by decide) (.fixed (by decide) (.cons ?_ .nil)))
    exact linksTo_contributingLink hdocs

theorem linksTo_buildLogLink {file : String} (h : good (ctx.logUrl file)) :
    LinksTo good (buildLogLink ctx file) :=
  .single (by decide) (by decide) h (by decide) (by decide)

theorem linked_replayClean (replay : PhaseRun)
    (h : good (ctx.logUrl "build-log/replaying_test.log")) :
    Linked good (replayClean replay ctx) := by
  unfold replayClean
  refine .bare ?_ (.fixed (by decide) (.cons (linksTo_buildLogLink h) .nil))
  split
  · exact noSlash_red (by decide)
  · exact noSlash_green (by decide)

theorem linked_crash {mode : TestMode}
    (h : good (ctx.logUrl ("build-log/" ++ mode.lower ++ "_test.log"))) :
    Linked good (crash mode ctx) := by
  have hmode : NoSlash mode.upper := by
    cases mode <;> exact noSlash_ofList (by decide)
  have hcrashed : NoSlash
      ("The provider crashed while running the VCR tests in " ++ mode.upper ++ " mode") :=
    noSlash_append (noSlash_append (noSlash_ofList (by decide)) hmode) (noSlash_ofList (by decide))
  refine .bare (noSlash_colored (noSlash_ofList (by decide)) hcrashed) (.fixed (by decide) ?_)
  refine .bare (noSlash_red (by decide)) (.fixed (by decide) ?_)
  exact .cons (linksTo_buildLogLink h) .nil

/-! ### The end of a report on a recording -/

section Recording

variable {record confirm : PhaseRun} {test errorLog debugLog : String}

theorem plain_testLead {cs : List Char} (htest : NoSlash test) (hcs : '/' ∉ cs) :
    Plain ("`" ++ test ++ String.ofList cs) :=
  plain_of_noSlash (noSlash_append (noSlash_append (noSlash_ofList (by decide)) htest)
    (noSlash_ofList hcs))

theorem linksTo_debugLine (htest : NoSlash test) (h : good (ctx.logUrl debugLog)) :
    LinksTo good (debugLine ctx debugLog test) :=
  .single (plain_testLead htest (by decide)) (endsWith_append (by decide)) h (by decide) (by decide)

theorem linksTo_failureLine (htest : NoSlash test) (herror : good (ctx.logUrl errorLog))
    (hdebug : good (ctx.logUrl debugLog)) :
    LinksTo good (failureLine ctx errorLog debugLog test) := by
  have hsecond : LinksTo good (")] [[Debug log](" ++ ctx.logUrl debugLog ++ ")]") :=
    .single (by decide) (by decide) hdebug (by decide) (by decide)
  have hline : failureLine ctx errorLog debugLog test = "`" ++ test ++ "`[[Error message]("
      ++ ctx.logUrl errorLog ++ (")] [[Debug log](" ++ ctx.logUrl debugLog ++ ")]") := by
    unfold failureLine
    simp only [String.append_assoc]
  rw [hline]
  refine .link (plain_testLead htest (by decide)) (endsWith_append (by decide)) herror ?_ hsecond
  exact startsWith_append (startsWith_append (by decide))

/-- What the links on the replay of fresh cassettes have to point to. -/
structure ConfirmLinks (good : String → Prop) (ctx : ReportContext) (confirm : PhaseRun) : Prop where
  names : ∀ test ∈ confirm.result.failed, NoSlash test
  buildLog : good (ctx.logUrl "build-log/replaying_test.log")
  workerLog : ∀ test ∈ confirm.result.failed, good (ctx.logUrl
    ("build-log/replaying_build_after_recording/" ++ test ++ "_replaying_test.log"))
  debugLog : ∀ test ∈ confirm.result.failed,
    good (ctx.logUrl ("replaying_after_recording/" ++ test ++ ".log"))

/-- What the links on a recording have to point to. -/
structure RecordLinks (good : String → Prop) (ctx : ReportContext) (record : PhaseRun) : Prop where
  names : ∀ test, test ∈ record.result.passed ∨ test ∈ record.result.failed → NoSlash test
  buildLog : good (ctx.logUrl "build-log/recording_test.log")
  workerLog : ∀ test ∈ record.result.failed,
    good (ctx.logUrl ("build-log/recording_build/" ++ test ++ "_recording_test.log"))
  debugLog : ∀ test, test ∈ record.result.passed ∨ test ∈ record.result.failed →
    good (ctx.logUrl ("recording/" ++ test ++ ".log"))
  debugLogs : good (ctx.browserUrl "recording")

theorem linked_confirmLines (h : ConfirmLinks good ctx confirm) :
    Linked good (confirmLines confirm ctx) := by
  unfold confirmLines
  refine .ite (fun _ => ?_) fun _ => .ite (fun _ => ?_) fun _ => .ite (fun _ => ?_) fun _ => ?_
  · refine .bare (noSlash_red (by decide)) (.bare (noSlash_red (by decide)) ?_)
    exact .fixed (by decide) (.cons (linksTo_buildLogLink h.buildLog) .nil)
  · refine .append (.bare (noSlash_red (by decide)) (.map fun test htest => ?_)) ?_
    · exact linksTo_failureLine (h.names test htest) (h.workerLog test htest) (h.debugLog test htest)
    · refine .fixed (by decide) (.bare ?_ (.fixed (by decide) (.bare ?_ .nil)))
      · exact noSlash_append (noSlash_ofList (by decide)) (noSlash_ofList (by decide))
      · exact noSlash_append (noSlash_append (noSlash_ofList (by decide)) (noSlash_ofList (by decide)))
          (noSlash_ofList (by decide))
  · refine .bare (noSlash_colored (noSlash_ofList (by decide)) ?_) .nil
    exact noSlash_append (noSlash_ofList (by decide)) (noSlash_ofList (by decide))
  · exact .bare (noSlash_green (by decide)) .nil

/-- The replay of fresh cassettes is only reported on if there are any. -/
theorem linked_recordedLines (h : RecordLinks good ctx record)
    (hconfirm : record.result.passed.isEmpty = false → ConfirmLinks good ctx confirm) :
    Linked good (recordedLines record confirm ctx) := by
  unfold recordedLines
  refine .ite (fun _ => .nil) fun hp => .append (.append (.append ?_ ?_) ?_) ?_
  · refine .bare (noSlash_green (by decide)) (.map fun test htest => ?_)
    exact linksTo_debugLine (h.names test (Or.inl htest)) (h.debugLog test (Or.inl htest))
  · exact .fixed (by decide) .nil
  · exact linked_confirmLines (hconfirm (by simpa using hp))
  · exact .fixed (by decide) (.fixed (by decide) (.fixed (by decide) .nil))

theorem linked_recordFaultLines (h : RecordLinks good ctx record) (terminated : Bool) :
    Linked good (recordFaultLines record confirm terminated ctx) := by
  have hterminated : Linked good [terminatedLine] := .bare (noSlash_red (by decide)) .nil
  have herror : Linked good [recordErrorLine] := .bare (noSlash_red (by decide)) .nil
  unfold recordFaultLines
  refine .ite (fun _ => ?_) fun _ => .ite (fun _ => hterminated) fun _ =>
    .ite (fun _ => herror) fun _ => .ite (fun _ => .bare (noSlash_green (by decide)) .nil) fun _ => .nil
  refine .append (.append (.append (.append ?_ (.fixed (by decide) .nil)) ?_) ?_) ?_
  · refine .bare (noSlash_red (by decide)) (.map fun test htest => ?_)
    exact linksTo_failureLine (h.names test (Or.inr htest)) (h.workerLog test htest)
      (h.debugLog test (Or.inr htest))
  · exact .ite (fun _ => hterminated) fun _ => .nil
  · exact .ite (fun _ => herror) fun _ => .nil
  · exact .bare (noSlash_red (by decide)) .nil

theorem linked_recordReplay {s : RunState} (hs : s.record = some record)
    (h : RecordLinks good ctx record)
    (hconfirm : record.result.passed.isEmpty = false →
      ConfirmLinks good ctx (s.confirm.getD .empty)) : Linked good (recordReplay s ctx) := by
  have hsecond : LinksTo good
      (") or the [debug log](" ++ ctx.browserUrl "recording" ++ ") for each test") :=
    .single (by decide) (by decide) h.debugLogs (by decide) (by decide)
  have hlast : LinksTo good ("View the [build log](" ++ ctx.logUrl "build-log/recording_test.log"
      ++ (") or the [debug log](" ++ ctx.browserUrl "recording" ++ ") for each test")) :=
    .link (by decide) (by decide) h.buildLog (startsWith_append (startsWith_append (by decide))) hsecond
  simp only [← String.append_assoc] at hlast
  unfold recordReplay
  rw [hs, Option.getD_some]
  refine .append (.append (linked_recordedLines h hconfirm) (linked_recordFaultLines h _)) ?_
  exact .fixed (by decide) (.cons hlast .nil)

end Recording

/-! ## Whole reports -/

section Sections

variable {s : RunState} {replay record : PhaseRun}

/-- The sections that every report on a run without a crash begins with. -/
theorem linked_opening (hnames : s.surface.fullSweep = false →
      ∀ name ∈ s.surface.packages, NoSlash name)
    (hadded : NoSlashes s.unexercised) (r : RunResult) :
    ∀ ls ∈ [analytics r, affectedPackages s.surface] ++ (unexercised s.unexercised).toList,
      Linked good ls := by
  refine List.forall_mem_append.2 ⟨?_, ?_⟩
  · refine List.forall_mem_cons.2 ⟨linked_analytics r, List.forall_mem_singleton.2 ?_⟩
    exact linked_affectedPackages hnames
  · intro ls hls
    exact linked_unexercised hadded (Option.mem_toList.1 hls)

theorem linked_sections_of_clean (hnames : s.surface.fullSweep = false →
      ∀ name ∈ s.surface.packages, NoSlash name)
    (hadded : NoSlashes s.unexercised) (hreplay : s.replay = some replay)
    (hf : replay.result.failed.isEmpty = true)
    (hlog : good (ctx.logUrl "build-log/replaying_test.log")) :
    Linked good ([""].intercalate (sections s ctx)) := by
  rw [sections_of_clean hreplay hf]
  refine Linked.intercalate (List.forall_mem_append.2 ⟨linked_opening hnames hadded _, ?_⟩)
  exact List.forall_mem_singleton.2 (linked_replayClean replay hlog)

theorem linked_sections_of_failed (hnames : s.surface.fullSweep = false →
      ∀ name ∈ s.surface.packages, NoSlash name)
    (hadded : NoSlashes s.unexercised) (hreplay : s.replay = some replay)
    (hf : replay.result.failed.isEmpty = false) (htests : ∀ test ∈ replay.result.failed, NoSlash test)
    (hdocs : good docsUrl) (hrecord : s.record = some record) (h : RecordLinks good ctx record)
    (hconfirm : record.result.passed.isEmpty = false →
      ConfirmLinks good ctx (s.confirm.getD .empty)) :
    Linked good ([""].intercalate (sections s ctx)) := by
  rw [sections_of_failed hreplay hf]
  refine Linked.intercalate (List.forall_mem_append.2 ⟨List.forall_mem_append.2 ⟨?_, ?_⟩, ?_⟩)
  · exact linked_opening hnames hadded _
  · exact List.forall_mem_singleton.2 (linked_actionTaken htests hdocs)
  · exact List.forall_mem_singleton.2 (linked_recordReplay hrecord h hconfirm)

end Sections

/-! ## Names of tests and of services -/

/-- The names of acceptance tests have no slash. -/
theorem noSlash_of_isTestName {name : String} (h : TestLog.IsTestName name) : NoSlash name := by
  obtain ⟨word, hname, hword⟩ := h
  unfold NoSlash
  rw [hname, List.mem_append, not_or]
  refine ⟨by decide, ?_⟩
  intro hslash
  exact absurd (hword '/' hslash) (by decide)

/-- A test that a line of a diff declares is named like one. -/
theorem isTestName_of_mem_addedTests {diff test : String} (h : test ∈ addedTests diff) :
    TestLog.IsTestName test :=
  (mem_addedTests_iff.1 h).isTest.isTestName

/-- Whatever the diffs are, the names of added tests have no slash. -/
theorem noSlashes_of_diffs (gaDiff betaDiff : String) (replay : RunResult) :
    NoSlashes (UnexercisedTests.of gaDiff betaDiff replay) := by
  refine ⟨fun test htest => ?_, fun test htest => ?_⟩
  · exact noSlash_of_isTestName (isTestName_of_mem_addedTests (NameSet.mem_filter.1 htest).1)
  · exact noSlash_of_isTestName (isTestName_of_mem_addedTests (NameSet.mem_filter.1 htest).1)

/-- A service is named by one segment of a path. -/
theorem noSlash_of_mem_packages {rules : SurfaceRules} {files : List String} {name : String}
    (hs : (rules.surface files).fullSweep = false) (h : name ∈ (rules.surface files).packages) :
    NoSlash name := by
  obtain ⟨file, -, -, hservice⟩ := (SurfaceRules.mem_packages_iff hs).1 h
  unfold SurfaceRules.serviceOf? at hservice
  obtain ⟨root, -, hbelow⟩ := List.exists_of_findSome?_eq_some hservice
  exact (serviceBelow?_eq_some_iff.1 hbelow).1.slash_notMem

end Report

end CassetteGate
