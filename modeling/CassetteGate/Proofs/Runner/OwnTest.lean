import CassetteGate.Proofs.ProcessVariables
import CassetteGate.Proofs.Runner.InTurn
import CassetteGate.Proofs.Storage.LogFiles
import CassetteGate.Proofs.TestFlags
import CassetteGate.Proofs.TestLog

/-!
# `Proofs.Runner.OwnTest` — the tests that a worker executes besides its own

A worker is started for one test. What it executes is settled by the pattern in its command line: every
test of its package whose name the pattern matches somewhere. The pattern is the name of the test with
`$` behind it, which keeps away all tests whose names go on behind that one. Nothing keeps away those
whose names have something in front of it, as a `^` would (`matches_marked_iff`). So besides its own test
a worker executes the tests whose names end in its name.

Acceptance tests all begin with the same stem, and no character of the stem but the first is a `T`.
Hence a name that ends in that of another test has a whole name in front of that, as `TestAccTestAccDisk`
has (`suffix_iff_trails`). And of two names that a third one ends in, one ends in the other. So two
workers of a package execute a common test exactly if one of their own tests has a name that ends in that
of the other, and in no other case do they write the same cassette.

## Contents
- **`Pattern`**, **`Pattern.read?`**, **`Pattern.Matches`**: patterns, marked at their ends or not.
- **`Command.Executes`**, **`Command.Writes`**: what a test process does.
- **`Trails`**, **`executes_iff`**: the tests that one process for one test executes.
- **`Runner.OwnTests`**, **`Runner.ownTests_unless_trails`**: the workers of a phase.
-/

namespace CassetteGate

open Text TestLog

/-! ## Patterns -/

/-- A pattern that matches a text somewhere, or at an end only. -/
structure Pattern where
  /-- The text. -/
  text : List Char
  /-- Nothing may stand in front of it. -/
  fromStart : Bool
  /-- Nothing may stand behind it. -/
  toEnd : Bool

namespace Pattern

/-- The characters that do not stand for themselves in a pattern. -/
def specials : List Char :=
  ['\\', '/', '.', '+', '*', '?', '(', ')', '|', '[', ']', '\x7b', '\x7d', '^', '$']

/-- What stands in front of a text that is marked, or not. -/
def mark (c : Char) (marked : Bool) : List Char := if marked then [c] else []

/-- A pattern as it is written. -/
def written (p : Pattern) : String :=
  String.ofList (mark '^' p.fromStart ++ p.text ++ mark '$' p.toEnd)

/-- Whether characters begin with a mark, and the rest of them. -/
def dropMark (c : Char) : List Char → Bool × List Char
  | d :: cs => if d = c then (true, cs) else (false, d :: cs)
  | [] => (false, [])

/-- Reads a pattern. There is none if a special character stands in it, but for the marks of its ends. -/
def read? (pattern : String) : Option Pattern :=
  let (fromStart, rest) := dropMark '^' pattern.toList
  let (toEnd, reversed) := dropMark '$' rest.reverse
  if reversed.any specials.contains then none else some ⟨reversed.reverse, fromStart, toEnd⟩

/-- The pattern matches a name somewhere, or at an end only. -/
def Matches (p : Pattern) (name : List Char) : Prop :=
  ∃ before behind, name = before ++ p.text ++ behind ∧ (p.fromStart = true → before = []) ∧
    (p.toEnd = true → behind = [])

/-- All characters of the pattern stand for themselves. -/
def Plain (p : Pattern) : Prop := ∀ c ∈ p.text, c ∉ specials

variable {p : Pattern} {name text : List Char}

theorem dropMark_mark {c : Char} {cs : List Char} (marked : Bool) (h : c ∉ cs) :
    dropMark c (mark c marked ++ cs) = (marked, cs) := by
  cases marked with
  | true => exact if_pos rfl
  | false =>
      cases cs with
      | nil => rfl
      | cons d cs => exact if_neg fun hd : d = c => h (hd ▸ List.mem_cons_self)

theorem reverse_mark (c : Char) (marked : Bool) : (mark c marked).reverse = mark c marked := by
  cases marked <;> rfl

/-- **A pattern is read as it was written.** -/
theorem read?_written (h : p.Plain) : read? p.written = some p := by
  have hfront : '^' ∉ p.text ++ mark '$' p.toEnd := by
    rw [List.mem_append, not_or]
    refine ⟨fun hmem => h _ hmem (by decide), ?_⟩
    cases p.toEnd <;> decide
  have hbehind : '$' ∉ p.text.reverse := fun hmem => h _ (List.mem_reverse.1 hmem) (by decide)
  have hplain : p.text.reverse.any specials.contains = false := by
    rw [List.any_eq_false]
    exact fun c hc hspecial => h c (List.mem_reverse.1 hc) (List.contains_iff_mem.1 hspecial)
  unfold read? written
  simp only [String.toList_ofList, List.append_assoc, dropMark_mark _ hfront, List.reverse_append,
    reverse_mark, dropMark_mark _ hbehind, hplain, List.reverse_reverse, Bool.false_eq_true, if_false]

theorem matches_toEnd_iff : Matches ⟨text, false, true⟩ name ↔ text <:+ name := by
  constructor
  · rintro ⟨before, behind, rfl, -, hbehind⟩
    rw [hbehind rfl, List.append_nil]
    exact List.suffix_append before text
  · rintro ⟨before, rfl⟩
    exact ⟨before, [], (List.append_nil _).symm, nofun, fun _ => rfl⟩

/-- With both marks a pattern matches the text in it, and nothing else. -/
theorem matches_whole_iff : Matches ⟨text, true, true⟩ name ↔ name = text := by
  constructor
  · rintro ⟨before, behind, rfl, hbefore, hbehind⟩
    rw [hbefore rfl, hbehind rfl, List.append_nil]
    rfl
  · rintro rfl
    exact ⟨[], [], (List.append_nil _).symm, fun _ => rfl, fun _ => rfl⟩

end Pattern

/-! ## Test processes -/

/-- A test process executes the tests whose names its pattern matches. -/
def Command.Executes (c : Command) (test : String) : Prop :=
  ∃ pattern p, c.flag? "run" = some pattern ∧ Pattern.read? pattern = some p ∧ p.Matches test.toList

/-- The file of a test among the cassettes of a process. -/
def Command.cassette? (c : Command) (test : String) : Option Path :=
  (c.env.get? "VCR_PATH").map fun dir => (⟨dir⟩ : Path) / (test ++ ".yaml")

/-- A test process writes the cassettes of the acceptance tests that it executes. -/
def Command.Writes (c : Command) (file : Path) : Prop :=
  ∃ test, IsTestName test ∧ c.Executes test ∧ c.cassette? test = some file

/-! ## Names -/

/-- The name of a test is what the name of another one ends in, with a whole name in front of it. -/
def Trails (test other : String) : Prop := ∃ front, IsTestName front ∧ other = front ++ test

variable {test other : String}

theorem isWord_of_isTestName (h : IsTestName test) : ∀ c ∈ test.toList, isWord c = true := by
  obtain ⟨word, hname, hword⟩ := h
  have hstem : acceptanceStem.all isWord = true := by decide
  rw [hname]
  exact List.forall_mem_append.2 ⟨List.all_eq_true.1 hstem, hword⟩

theorem not_mem_specials_of_isWord {c : Char} (h : isWord c = true) : c ∉ Pattern.specials := by
  intro hmem
  have hany : Pattern.specials.any isWord = true := List.any_eq_true.2 ⟨c, hmem, h⟩
  exact absurd hany (by decide)

/-- In a pattern all characters of a name stand for themselves. -/
theorem plain_of_isTestName {p : Pattern} (h : IsTestName test) (htext : p.text = test.toList) :
    p.Plain := by
  intro c hc
  rw [htext] at hc
  exact not_mem_specials_of_isWord (isWord_of_isTestName h c hc)

/-- The stem does not begin anew before it is over. -/
theorem eq_nil_of_stem_eq {front rest tail word : List Char} (hne : front ≠ [])
    (hstem : acceptanceStem = front ++ rest) (hrest : acceptanceStem ++ tail = rest ++ word) :
    rest = [] := by
  obtain ⟨d, front, rfl⟩ := List.exists_cons_of_ne_nil hne
  cases rest with
  | nil => rfl
  | cons c rest =>
      obtain rfl : 'T' = c := (List.cons.inj hrest).1
      have htail := congrArg List.tail hstem
      have hmem : 'T' ∈ acceptanceStem.tail :=
        htail ▸ List.mem_append_right front List.mem_cons_self
      exact absurd hmem (by decide)

/-- What stands in front of a name in another name is a name itself. -/
theorem isTestName_of_append {front : String} (hne : front ≠ "") (htest : IsTestName test)
    (hother : IsTestName (front ++ test)) : IsTestName front := by
  obtain ⟨word, hword, hwords⟩ := hother
  obtain ⟨tail, htail, -⟩ := htest
  rw [String.toList_append, htail] at hword
  rcases List.append_eq_append_iff.1 hword with ⟨rest, hstem, hrest⟩ | ⟨rest, hfront, hrest⟩
  · obtain rfl : rest = [] :=
      eq_nil_of_stem_eq (fun h => hne (String.toList_eq_nil_iff.1 h)) hstem hrest
    refine ⟨[], ?_, nofun⟩
    rw [List.append_nil, hstem, List.append_nil]
  · refine ⟨rest, hfront, fun c hc => hwords c ?_⟩
    rw [hrest]
    exact List.mem_append_left _ hc

/-- **A name ends in that of another test exactly if that test trails it.** -/
theorem suffix_iff_trails (htest : IsTestName test) (hother : IsTestName other) :
    test.toList <:+ other.toList ↔ other = test ∨ Trails test other := by
  constructor
  · rintro ⟨front, hfront⟩
    have heq : other = String.ofList front ++ test := by
      rw [← String.toList_inj, String.toList_append, String.toList_ofList, hfront]
    by_cases hne : String.ofList front = ""
    · rw [hne, String.empty_append] at heq
      exact .inl heq
    · exact .inr ⟨_, isTestName_of_append hne htest (heq ▸ hother), heq⟩
  · rintro (rfl | ⟨front, -, rfl⟩)
    · exact List.suffix_refl _
    · rw [String.toList_append]
      exact List.suffix_append front.toList test.toList

/-- The name of a test that trails another is the shorter one, so no two trail each other. -/
theorem Trails.length_lt (h : Trails test other) : test.length < other.length := by
  obtain ⟨front, ⟨word, hfront, -⟩, rfl⟩ := h
  have hpos : 0 < front.length := by
    rw [← String.length_toList, hfront]
    exact Nat.succ_pos _
  rw [String.length_append]
  exact Nat.lt_add_of_pos_left hpos

/-! ## A process for one test -/

variable {config : Config} {program testDir : String} {mode : TestMode} {cassetteDir : Path}
  {command : Command}

/-- **A process for a test executes the tests whose names end in its name.** -/
theorem executes_iff_suffix (htest : IsTestName test)
    (h : singleTestRun? config program mode testDir test cassetteDir = some command) :
    command.Executes other ↔ test.toList <:+ other.toList := by
  obtain ⟨deadline, -, rfl⟩ := Option.map_eq_some_iff.1 h
  have hread : Pattern.read? (test ++ "$") = some ⟨test.toList, false, true⟩ := by
    have hwritten : Pattern.written ⟨test.toList, false, true⟩ = test ++ "$" := by
      rw [← String.toList_inj, String.toList_append]
      exact String.toList_ofList
    rw [← hwritten, Pattern.read?_written (plain_of_isTestName htest rfl)]
  rw [← Pattern.matches_toEnd_iff]
  constructor
  · rintro ⟨pattern, p, hpattern, hp, hmatches⟩
    rw [flag?_run] at hpattern
    obtain rfl := Option.some.inj hpattern
    rw [hread] at hp
    obtain rfl := Option.some.inj hp
    exact hmatches
  · exact fun hmatches => ⟨_, _, flag?_run, hread, hmatches⟩

/-- **Besides its own test it executes those that its test trails.** -/
theorem executes_iff (htest : IsTestName test) (hother : IsTestName other)
    (h : singleTestRun? config program mode testDir test cassetteDir = some command) :
    command.Executes other ↔ other = test ∨ Trails test other := by
  rw [executes_iff_suffix htest h, suffix_iff_trails htest hother]

/-- With `^` in front of it the pattern would match the name of the test, and no other name. -/
theorem matches_marked_iff (htest : IsTestName test) :
    ∃ p, Pattern.read? ("^" ++ test ++ "$") = some p ∧ ∀ name, p.Matches name ↔ name = test.toList := by
  have hwritten : Pattern.written ⟨test.toList, true, true⟩ = "^" ++ test ++ "$" := by
    rw [← String.toList_inj, String.toList_append, String.toList_append]
    exact String.toList_ofList
  rw [← hwritten, Pattern.read?_written (plain_of_isTestName htest rfl)]
  exact ⟨_, rfl, fun _ => Pattern.matches_whole_iff⟩

theorem cassette?_singleTestRun
    (h : singleTestRun? config program mode testDir test cassetteDir = some command) (other : String) :
    command.cassette? other = some (cassetteDir / (other ++ ".yaml")) := by
  obtain ⟨deadline, -, rfl⟩ := Option.map_eq_some_iff.1 h
  have hdir : (testVariables config mode cassetteDir [testDir] 1).get? "VCR_PATH" =
      some cassetteDir.text := by
    rw [get?_testVariables]
    rfl
  exact congrArg (Option.map fun dir => (⟨dir⟩ : Path) / (other ++ ".yaml")) hdir

theorem slash_notMem_cassette (htest : IsTestName test) : '/' ∉ (test ++ ".yaml").toList := by
  rw [String.toList_append, List.mem_append]
  rintro (hmem | hmem)
  · exact absurd (isWord_of_isTestName htest _ hmem) (by decide)
  · exact absurd hmem (by decide)

/-- Tests have cassettes of their own. -/
theorem cassette_injective (htest : IsTestName test) (hother : IsTestName other)
    (h : cassetteDir / (test ++ ".yaml") = cassetteDir / (other ++ ".yaml")) : test = other := by
  have hname := congrArg Path.fileName h
  rw [Path.fileName_div (slash_notMem_cassette htest),
    Path.fileName_div (slash_notMem_cassette hother)] at hname
  exact (String.append_left_inj ".yaml").1 hname

/-! ## The workers of a phase -/

namespace Runner

open Host

variable {r : Runner} {options : RunOptions} {exchanges : List HostExchange}
  {result : Except RunnerFault PhaseRun} {package : String} {worker first second : Worker}
  {workers : List Worker}

/-- A worker that was started in a phase, and what for. -/
structure StartedFor (r : Runner) (options : RunOptions) (exchanges : List HostExchange)
    (package test : String) (worker : Worker) : Prop where
  /-- It was started. -/
  started : ∃ workers ∈ starts exchanges, worker ∈ workers
  /-- The test is one of those that the phase is to run. -/
  requested : test ∈ options.tests
  /-- The worker is that of the test in the package. -/
  worker_eq : r.worker? options (package, test) = some worker

/-- What the workers of a phase execute and write. Each is started for a test, and no two that are
    started for different tests of a package get in each other's way but for tests that trail another. -/
structure OwnTests (r : Runner) (options : RunOptions) (exchanges : List HostExchange) : Prop where
  /-- Every worker is one for a test of a package. -/
  started : ∀ workers ∈ starts exchanges, ∀ worker ∈ workers, ∃ package test,
    r.StartedFor options exchanges package test worker
  /-- It executes its own test, and the tests that this one trails. -/
  executes : ∀ package test worker, r.StartedFor options exchanges package test worker →
    ∀ other, IsTestName other → (worker.command.Executes other ↔ other = test ∨ Trails test other)
  /-- Two workers execute a common test exactly if the test of one trails that of the other. -/
  shares : ∀ package test other first second, test ≠ other →
    r.StartedFor options exchanges package test first →
    r.StartedFor options exchanges package other second →
      ((∃ both, IsTestName both ∧ first.command.Executes both ∧ second.command.Executes both) ↔
        Trails test other ∨ Trails other test)
  /-- In that case they write the same cassette, and in no other. -/
  writes : ∀ package test other first second, test ≠ other →
    r.StartedFor options exchanges package test first →
    r.StartedFor options exchanges package other second →
      ((∃ file, first.command.Writes file ∧ second.command.Writes file) ↔
        Trails test other ∨ Trails other test)

theorem StartedFor.singleTestRun? (h : r.StartedFor options exchanges package test worker) :
    singleTestRun? r.config r.program options.mode package test options.cassetteDir =
      some worker.command := by
  obtain ⟨command, hcommand, rfl⟩ := Option.map_eq_some_iff.1 h.worker_eq
  exact hcommand

theorem StartsOneEach.startedFor (h : StartsOneEach r options exchanges)
    (hworkers : workers ∈ starts exchanges) (hworker : worker ∈ workers) :
    ∃ package test, r.StartedFor options exchanges package test worker := by
  obtain ⟨packages, started, -, hstarts, hpairs⟩ := h
  obtain rfl : workers = started := List.mem_singleton.1 (hstarts ▸ hworkers)
  have hmem : some worker ∈ (pairs packages options.tests).map (r.worker? options) :=
    hpairs ▸ List.mem_map_of_mem hworker
  obtain ⟨⟨package, test⟩, hpair, hmade⟩ := List.mem_map.1 hmem
  obtain ⟨_, -, hinner⟩ := List.mem_flatMap.1 hpair
  obtain ⟨_, htest, heq⟩ := List.mem_map.1 hinner
  obtain ⟨-, rfl⟩ := Prod.mk.inj heq
  exact ⟨package, _, ⟨workers, hworkers, hworker⟩, htest, hmade⟩

/-- Workers execute a common test exactly if the test of one trails that of the other: of two names that
    a third one ends in, one ends in the other. -/
theorem shares_iff (hne : test ≠ other) (htest : IsTestName test) (hother : IsTestName other)
    (hfirst : r.StartedFor options exchanges package test first)
    (hsecond : r.StartedFor options exchanges package other second) :
    (∃ both, IsTestName both ∧ first.command.Executes both ∧ second.command.Executes both) ↔
      Trails test other ∨ Trails other test := by
  simp only [executes_iff_suffix htest hfirst.singleTestRun?,
    executes_iff_suffix hother hsecond.singleTestRun?]
  constructor
  · rintro ⟨both, -, htail, htail'⟩
    rcases List.suffix_or_suffix_of_suffix htail htail' with hin | hin
    · exact .inl (((suffix_iff_trails htest hother).1 hin).resolve_left hne.symm)
    · exact .inr (((suffix_iff_trails hother htest).1 hin).resolve_left hne)
  · rintro (htrails | htrails)
    · exact ⟨other, hother, (suffix_iff_trails htest hother).2 (.inr htrails), List.suffix_refl _⟩
    · exact ⟨test, htest, List.suffix_refl _, (suffix_iff_trails hother htest).2 (.inr htrails)⟩

/-- Workers write a common cassette exactly if they execute a common test. -/
theorem writes_iff_shares (hfirst : r.StartedFor options exchanges package test first)
    (hsecond : r.StartedFor options exchanges package other second) :
    (∃ file, first.command.Writes file ∧ second.command.Writes file) ↔
      ∃ both, IsTestName both ∧ first.command.Executes both ∧ second.command.Executes both := by
  have hfile := cassette?_singleTestRun hfirst.singleTestRun?
  have hfile' := cassette?_singleTestRun hsecond.singleTestRun?
  constructor
  · rintro ⟨file, ⟨both, hboth, hexecutes, hmade⟩, ⟨same, hsame, hexecutes', hmade'⟩⟩
    have hjoined := (Option.some.inj ((hfile both).symm.trans hmade)).trans
      (Option.some.inj ((hfile' same).symm.trans hmade')).symm
    obtain rfl := cassette_injective hboth hsame hjoined
    exact ⟨both, hboth, hexecutes, hexecutes'⟩
  · rintro ⟨both, hboth, hexecutes, hexecutes'⟩
    exact ⟨_, ⟨both, hboth, hexecutes, hfile both⟩, ⟨both, hboth, hexecutes', hfile' both⟩⟩

/-- The workers of a phase whose tests have the names of acceptance tests. -/
theorem ownTests_of_runTests (h : Program.Yields (r.runTests options).run exchanges result)
    (hnames : ∀ test ∈ options.tests, IsTestName test) : r.OwnTests options exchanges where
  started := by
    intro workers hworkers worker hworker
    rcases (phaseCourse_of_runTests h).starts_cases with ⟨-, hnone⟩ | hone
    · rw [hnone] at hworkers
      cases hworkers
    · exact hone.startedFor hworkers hworker
  executes := fun _ test _ hfor _ hother =>
    executes_iff (hnames test hfor.requested) hother hfor.singleTestRun?
  shares := fun _ _ _ _ _ hne hfirst hsecond =>
    shares_iff hne (hnames _ hfirst.requested) (hnames _ hsecond.requested) hfirst hsecond
  writes := fun _ _ _ _ _ hne hfirst hsecond =>
    (writes_iff_shares hfirst hsecond).trans
      (shares_iff hne (hnames _ hfirst.requested) (hnames _ hsecond.requested) hfirst hsecond)

/-- **A process for a test executes its own test, and no two workers of a package execute the same test
    or write the same cassette, but for tests whose names end in that of another**: the other one trails
    them, and its process executes them as well. -/
theorem ownTests_unless_trails (r : Runner) :
    (∀ mode package test cassetteDir command, IsTestName test →
      singleTestRun? r.config r.program mode package test cassetteDir = some command →
        ∀ other, IsTestName other →
          (command.Executes other ↔ other = test ∨ Trails test other)) ∧
    ∀ options exchanges result, Program.Yields (r.runTests options).run exchanges result →
      (∀ test ∈ options.tests, IsTestName test) → r.OwnTests options exchanges :=
  ⟨fun _ _ _ _ _ htest hcommand _ hother => executes_iff htest hother hcommand,
    fun _ _ _ hrun hnames => ownTests_of_runTests hrun hnames⟩

/-- A replay of two tests in a package; one trails the other. -/
def trailingPhase : RunOptions :=
  { samplePhase with
    testDirs := ["./google/services/compute"]
    tests := ["TestAccDisk", "TestAccTestAccDisk"] }

/-- What its processes print: the first one runs the other test as well. -/
def trailingOutputs : List CommandOutput :=
  [⟨some 0, "--- PASS: TestAccDisk (0.1s)\n--- PASS: TestAccTestAccDisk (0.2s)\n", "", 900, false⟩,
   ⟨some 0, "--- PASS: TestAccTestAccDisk (0.2s)\n", "", 800, false⟩]

/-- The replay on a machine that obliges; its workers finish in order. -/
def trailingExchanges (workers : List Worker) : List HostExchange :=
  replayExchanges workers (numbered trailingOutputs) trailingOutputs

theorem exists_trailingWorkers :
    ∃ first second,
      sampleRunner.workers? trailingPhase trailingPhase.testDirs = some [first, second] ∧
      sampleRunner.worker? trailingPhase ("./google/services/compute", "TestAccDisk") = some first ∧
      sampleRunner.worker? trailingPhase ("./google/services/compute", "TestAccTestAccDisk") =
        some second := by
  have hdeadline : sampleRunner.config.processTimeout? ≠ none := by decide
  obtain ⟨workers, hworkers⟩ := exists_workers trailingPhase trailingPhase.testDirs hdeadline
  obtain ⟨first, others, rfl, hfirst, hothers⟩ :=
    List.map_eq_cons_iff.1 (map_worker?_of_workers? hworkers).symm
  obtain ⟨second, others, rfl, hsecond, hnone⟩ := List.map_eq_cons_iff.1 hothers
  obtain rfl := List.map_eq_nil_iff.1 hnone
  exact ⟨first, second, hworkers, hfirst.symm, hsecond.symm⟩

/-- Of two workers, the one for `TestAccDisk` executes `TestAccTestAccDisk` too, and both write the
    cassette of that test; with a `^` its pattern would not match the other name. -/
theorem ownTests_unless_trails_disk :
    ∃ first second,
      Program.Yields (sampleRunner.runTests trailingPhase).run (trailingExchanges [first, second])
        (.ok (phaseOf trailingOutputs)) ∧
      (∀ test ∈ trailingPhase.tests, IsTestName test) ∧
      sampleRunner.StartedFor trailingPhase (trailingExchanges [first, second])
        "./google/services/compute" "TestAccDisk" first ∧
      sampleRunner.StartedFor trailingPhase (trailingExchanges [first, second])
        "./google/services/compute" "TestAccTestAccDisk" second ∧
      first.command.Executes "TestAccTestAccDisk" ∧ ¬ second.command.Executes "TestAccDisk" ∧
      (∃ file, first.command.Writes file ∧ second.command.Writes file) ∧
      ∃ p, Pattern.read? "^TestAccDisk$" = some p ∧ ¬ p.Matches "TestAccTestAccDisk".toList := by
  obtain ⟨first, second, hworkers, hfirst, hsecond⟩ := exists_trailingWorkers
  have hrun : Program.Yields (sampleRunner.runTests trailingPhase).run
      (trailingExchanges [first, second]) (.ok (phaseOf trailingOutputs)) :=
    yields_replayExchanges hworkers (List.Perm.refl _)
  have hdisk : IsTestName "TestAccDisk" := ⟨"Disk".toList, rfl, List.all_eq_true.1 (by decide)⟩
  have hother : IsTestName "TestAccTestAccDisk" := ⟨"TestAccDisk".toList, rfl, List.all_eq_true.1 (by decide)⟩
  have hnames : ∀ test ∈ trailingPhase.tests, IsTestName test :=
    List.forall_mem_cons.2 ⟨hdisk, List.forall_mem_singleton.2 hother⟩
  obtain ⟨hselects, hphases⟩ := ownTests_unless_trails sampleRunner
  have hown := hphases _ _ _ hrun hnames
  have htrails : Trails "TestAccDisk" "TestAccTestAccDisk" := ⟨"TestAcc", ⟨[], rfl, nofun⟩, rfl⟩
  have hfor : sampleRunner.StartedFor trailingPhase (trailingExchanges [first, second])
      "./google/services/compute" "TestAccDisk" first :=
    ⟨⟨_, List.mem_singleton_self _, List.mem_cons_self⟩, List.mem_cons_self, hfirst⟩
  have hfor' : sampleRunner.StartedFor trailingPhase (trailingExchanges [first, second])
      "./google/services/compute" "TestAccTestAccDisk" second :=
    ⟨⟨_, List.mem_singleton_self _, List.mem_cons_of_mem _ List.mem_cons_self⟩,
      List.mem_cons_of_mem _ List.mem_cons_self, hsecond⟩
  refine ⟨first, second, hrun, hnames, hfor, hfor', ?_, ?_, ?_, ?_⟩
  · exact (hselects _ _ _ _ _ hdisk hfor.singleTestRun? _ hother).2 (.inr htrails)
  · rw [hown.executes _ _ _ hfor' _ hdisk]
    exact not_or.2 ⟨by decide, fun hback => absurd hback.length_lt (by decide)⟩
  · exact (hown.writes _ _ _ _ _ (by decide) hfor hfor').2 (.inl htrails)
  · obtain ⟨p, hread, hmatches⟩ := matches_marked_iff hdisk
    exact ⟨p, hread, fun h => absurd ((hmatches _).1 h) (by decide)⟩

end Runner

end CassetteGate
