import CassetteGate.Proofs.Runner.KeptCassettes

/-!
# `Proofs.Runner.Sweep` — the packages of a full sweep

A phase that is given no packages tests all packages of the repository, but for helper scripts, which
have no tests. They lie in one directory of the module (`IsHelper`). A listing is searched for something
else: lines in which the name of that directory occurs anywhere. Helpers are found that way, and so is
every package below another directory whose name is the same, or begins with it (`Mistaken`); it is never
tested, recorded or replayed by a sweep, and nothing says so.

So a sweep is what it should be for the repositories that have no such package, and for no others.

## Contents
- **`Runner.listedPackages`**, **`Runner.IsHelper`**, **`Runner.wanted`**: what should be tested.
- **`Runner.Mistaken`**, `packagesOf_eq_wanted_iff`: what is not.
- **`Runner.HandsOver`**: the packages that a process is started with.
- **`Runner.Sweeps`**, and **`sweeps_all_but_mistaken`**.
-/

namespace CassetteGate.Runner

open Host Program

variable {r : Runner} {options : RunOptions} {packages : List String} {exchanges : List HostExchange}
  {v : ProviderVersion} {package listing : String} {phase : RunnerProgram PhaseRun}
  {result : Except RunnerFault PhaseRun}

/-! ## Helper scripts -/

/-- All packages of a listing. -/
def listedPackages (listing : String) : List String :=
  ((Text.entries listing).map Text.trimmed).filter fun line => !line.isEmpty

/-- A package of helper scripts: it lies in their directory of the module, or below it. -/
def IsHelper (v : ProviderVersion) (package : String) : Prop :=
  package = v.modulePath ++ "/scripts" ∨ ∃ name, package = v.modulePath ++ "/scripts/" ++ name

instance (v : ProviderVersion) (package : String) : Decidable (IsHelper v package) :=
  decidable_of_iff (package = v.modulePath ++ "/scripts" ∨
      Text.startsWith package (v.modulePath ++ "/scripts/") = true)
    (or_congr_right Text.startsWith_iff)

/-- The packages of a listing that a sweep should test. -/
def wanted (v : ProviderVersion) (listing : String) : List String :=
  (listedPackages listing).filter fun package => !decide (IsHelper v package)

/-- A package that is taken for one of helper scripts, and is none. -/
def Mistaken (v : ProviderVersion) (package : String) : Prop :=
  namesScripts package = true ∧ ¬ IsHelper v package

instance (v : ProviderVersion) (package : String) : Decidable (Mistaken v package) :=
  inferInstanceAs (Decidable (_ ∧ _))

theorem namesScripts_iff :
    namesScripts package = true ↔ ∃ front behind, package = front ++ "/scripts" ++ behind :=
  Text.contains_iff

theorem namesScripts_of_isHelper (h : IsHelper v package) : namesScripts package = true := by
  rcases h with rfl | ⟨name, rfl⟩
  · exact namesScripts_iff.2 ⟨v.modulePath, "", String.append_empty.symm⟩
  · refine namesScripts_iff.2 ⟨v.modulePath, "/" ++ name, ?_⟩
    have hslash : "/scripts/" = "/scripts" ++ "/" := rfl
    rw [hslash, String.append_assoc, String.append_assoc, String.append_assoc]

theorem mem_wanted_iff : package ∈ wanted v listing ↔
    package ∈ listedPackages listing ∧ ¬ IsHelper v package := by
  unfold wanted
  rw [List.mem_filter, Bool.not_eq_true', decide_eq_false_iff_not]

/-- Of the packages that a sweep should test, those that are mistaken are lost, and only those. -/
theorem packagesOf_eq_filter_wanted (v : ProviderVersion) (listing : String) :
    packagesOf listing = (wanted v listing).filter fun package => !decide (Mistaken v package) := by
  unfold packagesOf wanted listedPackages
  rw [List.filter_filter, List.filter_filter]
  refine List.filter_congr fun package _ => ?_
  by_cases hhelper : IsHelper v package
  · have hnames := namesScripts_of_isHelper hhelper
    simp [hnames, hhelper]
  · simp [Mistaken, hhelper, Bool.and_comm]

/-- **A sweep tests what it should exactly if no package of the listing is mistaken.** -/
theorem packagesOf_eq_wanted_iff (v : ProviderVersion) (listing : String) :
    packagesOf listing = wanted v listing ↔
      ∀ package ∈ listedPackages listing, ¬ Mistaken v package := by
  rw [packagesOf_eq_filter_wanted v, List.filter_eq_self]
  constructor
  · rintro h package hlisted hmistaken
    have hkept := h package (mem_wanted_iff.2 ⟨hlisted, hmistaken.2⟩)
    rw [decide_eq_true hmistaken] at hkept
    cases hkept
  · intro h package hwanted
    rw [decide_eq_false (h package (mem_wanted_iff.1 hwanted).1)]
    rfl

/-! ## Discovery -/

/-- The packages that are found are those of the listing, if there is one. -/
theorem yields_discover_iff {output : CommandOutput} {listed : Except RunnerFault (List String)}
    (hsuccess : output.success = true) :
    Yields r.discover.run (⟨.execute r.listCommand, .ok output⟩ :: exchanges) listed ↔
      exchanges = [] ∧ listed = .ok (packagesOf output.stdout) := by
  constructor
  · intro h
    cases discovery_of_discover h with
    | listed _ => exact ⟨rfl, rfl⟩
    | failed hfails =>
        rw [hsuccess] at hfails
        cases hfails
  · rintro ⟨rfl, rfl⟩
    refine yields_run_bind_iff.2 (.inl ⟨_, output, [], yields_execute, ?_, rfl⟩)
    rw [if_pos hsuccess]
    exact .done _

/-! ## Tests -/

/-- A request that starts `go test` for some packages: one process that is given all of them, or one for
    each test of each. -/
def HandsOver (r : Runner) (options : RunOptions) (packages : List String) : Request → Prop
  | .execute command =>
      command.args =
        "test" :: packages ++ testFlags r.config r.config.parallelism.acceptance "TestAcc"
  | .runWorkers _ workers =>
      workers.map (fun worker => worker.command.args) =
        (pairs packages options.tests).map fun pair =>
          "test" :: [pair.1] ++ testFlags r.config 1 (pair.2 ++ "$")
  | _ => False

theorem args_of_worker? {pair : String × String} {worker : Worker}
    (h : r.worker? options pair = some worker) :
    worker.command.args = "test" :: [pair.1] ++ testFlags r.config 1 (pair.2 ++ "$") := by
  obtain ⟨command, hcommand, rfl⟩ := Option.map_eq_some_iff.1 h
  obtain ⟨deadline, -, rfl⟩ := Option.map_eq_some_iff.1 hcommand
  rfl

theorem args_of_workers? {workers : List Worker} (h : r.workers? options packages = some workers) :
    workers.map (fun worker => worker.command.args) =
      (pairs packages options.tests).map fun pair =>
        "test" :: [pair.1] ++ testFlags r.config 1 (pair.2 ++ "$") := by
  replace h := map_worker?_of_workers? h
  generalize pairs packages options.tests = tests at h ⊢
  induction tests generalizing workers with
  | nil =>
      obtain rfl := List.map_eq_nil_iff.1 h.symm
      rfl
  | cons pair tests ih =>
      obtain ⟨worker, others, rfl, hworker, hothers⟩ := List.map_eq_cons_iff.1 h.symm
      rw [List.map_cons, List.map_cons, args_of_worker? hworker.symm, ih hothers.symm]

theorem Start.handsOver {q : Request} (h : Start r options packages q) :
    HandsOver r options packages q := by
  cases h with
  | together hcommand =>
      obtain ⟨deadline, -, rfl⟩ := Option.map_eq_some_iff.1 hcommand
      rfl
  | apart hworkers => exact args_of_workers? hworkers

theorem kinds_of_startsTests {q : Request} (h : q.startsTests = true) :
    q.makesReady = false ∧ q.keepsOutput = false := by
  cases q with
  | execute command => exact ⟨rfl, rfl⟩
  | runWorkers jobs workers => exact ⟨rfl, rfl⟩
  | _ => cases h

theorem Wipe.startsNoTests {wipe : List HostExchange} (h : Wipe options wipe) :
    ∀ e ∈ wipe, e.request.startsTests = false := by
  cases h with
  | kept => exact List.forall_mem_nil _
  | wiped hmode hremade =>
      refine List.forall_mem_cons.2 ⟨rfl, fun e he => Bool.eq_false_iff.2 fun hstarts => ?_⟩
      exact Bool.eq_false_iff.1 (kinds_of_startsTests hstarts).1 (hremade e he)

theorem Tested.start_of_startsTests {tests : List HostExchange} {e : HostExchange}
    (h : Tested r options packages tests result) (he : e ∈ tests)
    (hstarts : e.request.startsTests = true) : Start r options packages e.request := by
  cases h with
  | unstarted hfault => cases he
  | started hstart hlogs hresult =>
      rcases List.mem_cons.1 he with rfl | hlog
      · exact hstart
      · exact absurd (hlogs e hlog) (Bool.eq_false_iff.1 (kinds_of_startsTests hstarts).2)

/-- Tests are started for the packages that became known, and for no others. -/
theorem Course.start_of_startsTests {e : HostExchange} (h : Course r options exchanges result)
    (he : e ∈ exchanges) (hstarts : e.request.startsTests = true) :
    ∃ listing packages, Listing r options listing (.ok packages) ∧ (∀ x ∈ listing, x ∈ exchanges) ∧
      Start r options packages e.request := by
  cases h with
  | noRepository =>
      obtain rfl := List.mem_singleton.1 he
      cases hstarts
  | unlisted hlisting =>
      exact absurd hstarts (Bool.eq_false_iff.1 (hlisting.startsNoTests e he))
  | @known listing wipe opening tests packages _ hlisting hwipe hopening htests =>
      refine ⟨listing, packages, hlisting, fun x hx => ?_, ?_⟩
      · exact List.mem_cons_of_mem _ (List.mem_append_left _ hx)
      · rw [← List.cons_append] at he
        rcases List.mem_append.1 he with hfront | he
        · exact absurd hstarts (Bool.eq_false_iff.1 (hlisting.startsNoTests e hfront))
        rcases List.mem_append.1 he with hmade | he
        · exact absurd hstarts (Bool.eq_false_iff.1 (hwipe.startsNoTests e hmade))
        rcases List.mem_append.1 he with hready | htest
        · exact absurd (hopening e hready) (Bool.eq_false_iff.1 (kinds_of_startsTests hstarts).1)
        · exact htests.start_of_startsTests htest hstarts

/-- A phase that has a result has started its tests. -/
theorem Course.exists_start_of_ok {run : PhaseRun} (h : Course r options exchanges (.ok run)) :
    ∃ e ∈ exchanges, e.request.startsTests = true := by
  cases h with
  | @known listing wipe opening tests packages _ hlisting hwipe hopening htests =>
      cases htests with
      | @started start logs _ hstart hlogs hresult =>
          refine ⟨start, List.mem_cons_of_mem _ ?_, hstart.startsTests⟩
          refine List.mem_append_right _ (List.mem_append_right _ (List.mem_append_right _ ?_))
          exact List.mem_cons_self

/-! ## The result -/

/-- What a runner makes of a full sweep. -/
structure Sweeps (r : Runner) : Prop where
  /-- From a listing it takes the packages of the listing. -/
  returned : ∀ (output : CommandOutput) behind listed, output.success = true →
    (Yields r.discover.run (⟨.execute r.listCommand, .ok output⟩ :: behind) listed ↔
      behind = [] ∧ listed = .ok (packagesOf output.stdout))
  /-- They are those that should be tested, in their order, but for mistaken ones. -/
  kept : ∀ listing, packagesOf listing =
    (wanted r.config.version listing).filter fun package => !decide (Mistaken r.config.version package)
  /-- They are all that should be tested exactly if none is mistaken. -/
  exact_iff : ∀ listing, packagesOf listing = wanted r.config.version listing ↔
    ∀ package ∈ listedPackages listing, ¬ Mistaken r.config.version package
  /-- In a phase that is given no packages, tests are started for them, and for nothing else. -/
  handedOver : ∀ options phase exchanges result, options.testDirs = [] → phase ∈ r.phases options →
    Yields phase.run exchanges result → ∀ e ∈ exchanges, e.request.startsTests = true →
      ∃ output, output.success = true ∧ ⟨.execute r.listCommand, .ok output⟩ ∈ exchanges ∧
        HandsOver r options (packagesOf output.stdout) e.request
  /-- If such a phase has a result, tests were started. -/
  started : ∀ options phase exchanges run, options.testDirs = [] → phase ∈ r.phases options →
    Yields phase.run exchanges (.ok run) → ∃ e ∈ exchanges, e.request.startsTests = true

/-- **A full sweep tests all packages of the repository but helper scripts and those that are mistaken
    for some.** -/
theorem sweeps_all_but_mistaken (r : Runner) : Sweeps r := by
  constructor
  case returned => exact fun output behind listed hsuccess => yields_discover_iff hsuccess
  case kept => exact packagesOf_eq_filter_wanted r.config.version
  case exact_iff => exact packagesOf_eq_wanted_iff r.config.version
  case handedOver =>
    intro options phase exchanges result hnone hphase hrun e he hstarts
    obtain ⟨listing, packages, hlisting, hsub, hstart⟩ :=
      (course_of_phases hphase hrun).start_of_startsTests he hstarts
    cases hlisting with
    | given hsome => exact absurd hnone hsome
    | discovered _ hdiscovery =>
        cases hdiscovery with
        | @listed output hsuccess =>
            exact ⟨output, hsuccess, hsub _ List.mem_cons_self, hstart.handsOver⟩
  case started =>
    intro options phase exchanges run hnone hphase hrun
    exact (course_of_phases hphase hrun).exists_start_of_ok

/-- A package whose name begins like that of the helpers, and nothing else. -/
def misleadingListing : String := "github.com/hashicorp/terraform-provider-google/scriptsapi\n"

/-- It should be tested, and it is not: some package of the listing is mistaken. -/
theorem sweeps_all_but_mistaken_misleading :
    wanted .ga misleadingListing = ["github.com/hashicorp/terraform-provider-google/scriptsapi"] ∧
      Yields sampleRunner.discover.run
        [⟨.execute sampleRunner.listCommand, .ok ⟨some 0, misleadingListing, "", 900, false⟩⟩]
        (.ok []) ∧
      ¬ ∀ package ∈ listedPackages misleadingListing, ¬ Mistaken .ga package := by
  have hsweeps := sweeps_all_but_mistaken sampleRunner
  have hwanted : wanted .ga misleadingListing =
      ["github.com/hashicorp/terraform-provider-google/scriptsapi"] := by decide +kernel
  have hfound : packagesOf misleadingListing = [] := by decide +kernel
  refine ⟨hwanted, (hsweeps.returned _ _ _ rfl).2 ⟨rfl, congrArg Except.ok hfound.symm⟩, fun hnone => ?_⟩
  have hexact : packagesOf misleadingListing = wanted .ga misleadingListing :=
    (hsweeps.exact_iff misleadingListing).2 hnone
  rw [hfound, hwanted] at hexact
  cases hexact

end CassetteGate.Runner
