import CassetteGate.Invocation

/-!
# `Proofs.LoggedCredentials` — no credential reaches the log

What is logged about a test process is its command line and its variables, in which credentials are
blotted out. The credentials of a configuration go into the variables under two kinds of names: the
names that they have in the configuration, and the name under which the service account key is
passed on besides. Both are names of credentials, so blotting out after the settings are made comes
to the same as making them from credentials that were blotted out before. Whoever reads the log can
therefore not tell apart two configurations that differ in credentials only.

## Contents
- **`IsCredential`**, `isSecret_iff`: the names of credentials.
- **`Variables.AgreePublicly`**, **`redact_eq_redact_iff`**: what the log of variables tells.
- `redact_set`, `redact_setAll`: blotting out commutes with setting variables.
- **`Config.AgreePublicly`**, **`Config.AgreePublicly.logged`**: configurations that differ in
  credentials only, and what is logged under them.
- **`logs_no_credential`**: no log entry of a test process tells a credential.
-/

namespace CassetteGate

/-! ## Names -/

/-- The names of variables that hold credentials. -/
def IsCredential (name : String) : Prop :=
  name = "SA_KEY" ∨ name = "GOOGLE_CREDENTIALS" ∨ ∃ rest, name = "GITHUB_TOKEN" ++ rest

theorem isSecret_iff {name : String} : isSecret name = true ↔ IsCredential name := by
  unfold isSecret IsCredential
  rw [Bool.or_eq_true, Bool.or_eq_true, beq_iff_eq, beq_iff_eq, Text.startsWith_iff, or_assoc]

/-! ## Variables -/

/-- The value of a variable as it is logged. -/
def loggedValue (name value : String) : String := if isSecret name then redactedValue else value

theorem get?_redact (v : Variables) (name : String) :
    (redact v).get? name = (v.get? name).map (loggedValue name) :=
  v.get?_mapValues loggedValue name

theorem loggedValue_of_isCredential {name : String} (h : IsCredential name) (value : String) :
    loggedValue name value = redactedValue := if_pos (isSecret_iff.2 h)

theorem loggedValue_of_not_isCredential {name : String} (h : ¬ IsCredential name)
    (value : String) : loggedValue name value = value := if_neg fun hs => h (isSecret_iff.1 hs)

theorem get?_redact_of_isCredential {v : Variables} {name : String} (h : IsCredential name) :
    (redact v).get? name = if v.has name then some redactedValue else none := by
  rw [get?_redact]
  unfold Variables.has
  cases v.get? name with
  | none => rfl
  | some value => rw [Option.map_some, loggedValue_of_isCredential h, Option.isSome_some, if_pos rfl]

theorem get?_redact_of_not_isCredential {v : Variables} {name : String} (h : ¬ IsCredential name) :
    (redact v).get? name = v.get? name := by
  rw [get?_redact]
  cases v.get? name with
  | none => rfl
  | some value => rw [Option.map_some, loggedValue_of_not_isCredential h]

theorem has_redact (v : Variables) (name : String) : (redact v).has name = v.has name := by
  unfold Variables.has
  rw [get?_redact, Option.isSome_map]

/-- The same names are bound, and to the same values unless a credential stands there. -/
structure Variables.AgreePublicly (v w : Variables) : Prop where
  has_eq : ∀ name, v.has name = w.has name
  get?_eq : ∀ name, ¬ IsCredential name → v.get? name = w.get? name

/-- The log tells everything about variables but the values of credentials. -/
theorem redact_eq_redact_iff {v w : Variables} : redact v = redact w ↔ v.AgreePublicly w := by
  constructor
  · intro h
    constructor
    · intro name
      rw [← has_redact v, ← has_redact w, h]
    · intro name hname
      rw [← get?_redact_of_not_isCredential hname, h, get?_redact_of_not_isCredential hname]
  · intro h
    apply Variables.ext
    intro name
    by_cases hname : IsCredential name
    · rw [get?_redact_of_isCredential hname, get?_redact_of_isCredential hname, h.has_eq]
    · rw [get?_redact_of_not_isCredential hname, get?_redact_of_not_isCredential hname,
        h.get?_eq name hname]

/-- One more variable is blotted out by itself. -/
theorem redact_set (v : Variables) (name value : String) :
    redact (v.set name value) = (redact v).set name (loggedValue name value) := by
  apply Variables.ext
  intro other
  rw [get?_redact, Variables.get?_set, Variables.get?_set, get?_redact]
  by_cases h : other = name
  · rw [if_pos h, if_pos h, h, Option.map_some]
  · rw [if_neg h, if_neg h]

/-- A variable with its value as it is logged. -/
def loggedBinding (b : String × String) : String × String := (b.1, loggedValue b.1 b.2)

theorem redact_setAll (v : Variables) (bindings : List (String × String)) :
    redact (v.setAll bindings) = (redact v).setAll (bindings.map loggedBinding) := by
  -- on the bindings: each is set in variables that have been blotted out
  induction bindings generalizing v with
  | nil => rfl
  | cons b bs ih =>
      rw [Variables.setAll_cons, ih, redact_set, List.map_cons, Variables.setAll_cons]
      rfl

/-! ## Configurations -/

/-- Only credentials among the variables that are passed on differ. -/
structure Config.AgreePublicly (c d : Config) : Prop where
  eq_with : d = { c with testEnv := d.testEnv }
  testEnv : c.testEnv.AgreePublicly d.testEnv

variable {c d : Config}

/-- The service account key is blotted out under the name that it is passed on by, too. -/
theorem Config.AgreePublicly.settings (h : c.AgreePublicly d) (mode : TestMode) (cassetteDir : Path)
    (testDirs : List String) (parallelism : UInt64) :
    (vcrSettings c mode cassetteDir testDirs parallelism).map loggedBinding =
      (vcrSettings d mode cassetteDir testDirs parallelism).map loggedBinding := by
  -- of all settings, only the key depends on the variables that are passed on
  have hkey (value : String) : loggedValue "GOOGLE_CREDENTIALS" value = redactedValue :=
    if_pos (by decide)
  rw [h.eq_with]
  simp [vcrSettings, loggedBinding, hkey]

/-- **The log entry of a test process does not depend on credentials.** -/
theorem Config.AgreePublicly.logged (h : c.AgreePublicly d) (program : String) (mode : TestMode)
    (testDirs : List String) (cassetteDir : Path) (parallelism : UInt64) (pattern : String)
    (deadline : Duration) :
    (testCommand c program mode testDirs cassetteDir parallelism pattern deadline).logged =
      (testCommand d program mode testDirs cassetteDir parallelism pattern deadline).logged := by
  have hflags : testFlags d parallelism pattern = testFlags c parallelism pattern := by
    rw [h.eq_with]
    rfl
  have henv : redact (testVariables c mode cassetteDir testDirs parallelism) =
      redact (testVariables d mode cassetteDir testDirs parallelism) := by
    unfold testVariables
    rw [redact_setAll, redact_setAll, redact_eq_redact_iff.2 h.testEnv, h.settings]
  unfold testCommand Command.logged Command.display
  rw [henv, hflags]

theorem Config.AgreePublicly.processTimeout?_eq (h : c.AgreePublicly d) :
    d.processTimeout? = c.processTimeout? := by
  rw [h.eq_with]
  rfl

/-- What is logged about a test process is the same for configurations that differ in credentials
    only, whichever tests it runs. What is logged of variables in general are all of their names, and
    all of their values but those of credentials. -/
theorem logs_no_credential :
    (∀ c d : Config, c.AgreePublicly d →
      ∀ (program : String) (mode : TestMode) (cassetteDir : Path),
        (∀ testDirs : List String,
          (packageRun? c program mode testDirs cassetteDir).map Command.logged =
            (packageRun? d program mode testDirs cassetteDir).map Command.logged) ∧
        ∀ testDir test : String,
          (singleTestRun? c program mode testDir test cassetteDir).map Command.logged =
            (singleTestRun? d program mode testDir test cassetteDir).map Command.logged) ∧
    ∀ v : Variables, (redact v).names = v.names ∧
      (∀ name, IsCredential name → v.has name = true →
        (redact v).get? name = some redactedValue) ∧
      ∀ name, ¬ IsCredential name → (redact v).get? name = v.get? name := by
  constructor
  · intro c d h program mode cassetteDir
    constructor
    · intro testDirs
      have hparallel : d.parallelism = c.parallelism := by rw [h.eq_with]
      unfold packageRun?
      rw [Option.map_map, Option.map_map, h.processTimeout?_eq, hparallel]
      apply Option.map_congr
      intro deadline _
      exact h.logged program mode testDirs cassetteDir c.parallelism.acceptance "TestAcc" deadline
    · intro testDir test
      unfold singleTestRun?
      rw [Option.map_map, Option.map_map, h.processTimeout?_eq]
      apply Option.map_congr
      intro deadline _
      exact h.logged program mode [testDir] cassetteDir 1 (test ++ "$") deadline
  · intro v
    refine ⟨v.names_mapValues loggedValue, ?_, ?_⟩
    · intro name hname hbound
      rw [get?_redact_of_isCredential hname, if_pos hbound]
    · intro name hname
      exact get?_redact_of_not_isCredential hname

/-- A configuration with a service account key. -/
def Config.sample (key : String) : Config :=
  .make .beta ⟨⟨"/w"⟩, ⟨"/w/provider"⟩⟩ (.ofList [("GOOGLE_REGION", "us-central1"), ("SA_KEY", key)])

theorem logs_no_credential_sample :
    (Config.sample "k").AgreePublicly (Config.sample "l") ∧
    packageRun? (Config.sample "k") "go" .replaying ["./compute"] ⟨"/w/cassettes"⟩ ≠
      packageRun? (Config.sample "l") "go" .replaying ["./compute"] ⟨"/w/cassettes"⟩ ∧
    (packageRun? (Config.sample "k") "go" .replaying ["./compute"] ⟨"/w/cassettes"⟩).map
        Command.logged =
      (packageRun? (Config.sample "l") "go" .replaying ["./compute"] ⟨"/w/cassettes"⟩).map
        Command.logged := by
  have hagree : (Config.sample "k").AgreePublicly (Config.sample "l") :=
    ⟨rfl, redact_eq_redact_iff.1 (by decide +kernel)⟩
  refine ⟨hagree, by decide +kernel, ?_⟩
  exact (logs_no_credential.1 _ _ hagree "go" .replaying ⟨"/w/cassettes"⟩).1 ["./compute"]

end CassetteGate
