import CassetteGate.Forms.Requests
import CassetteGate.Forms.RunRecord
import CassetteGate.Proofs.Json.Lawful

/-!
# `Proofs.Forms.ReadBack` — stored values are read back

Each stored type has a lawful form, so that what is stored comes back as it was, also from the text
that it is stored as. A form that was written elsewhere may differ from the one written here: it may
list a set in any order and a name twice, leave out what is optional, have further members, or count
more than a second in nanoseconds. It is read as the value that it stands for, and is written in the
one form of that value from then on.

## Contents
- **`ofTag?_tag`**: a word is read as the value that it stands for.
- Lawful forms of words, results, surfaces, configurations, commands, uploads and stored states, in
  the order of their definitions.
- `Duration.ofJson?_obj`, **`Duration.ofJson?_parts`**: seconds and nanoseconds are read as their
  sum.
- **`StoredForms`**, **`stored_forms`**: what holds of all forms, type by type.
-/

namespace CassetteGate

open Json

/-! ## Words -/

/-- A word is read as the value that it stands for, if no other value has the same word. -/
theorem Json.ofTag?_tag {α : Type} {tag : α → String} {values : List α} {a : α}
    (hmem : a ∈ values) (hinj : ∀ b ∈ values, tag b = tag a → b = a) :
    ofTag? tag values (.str (tag a)) = some a := by
  show values.find? (fun b => tag b == tag a) = some a
  obtain ⟨b, hb⟩ : ∃ b, values.find? (fun b => tag b == tag a) = some b := by
    rw [← Option.isSome_iff_exists, List.find?_isSome]
    exact ⟨a, hmem, beq_self_eq_true _⟩
  have htag : tag b = tag a := by simpa using List.find?_some hb
  rw [hb, hinj b (List.mem_of_find?_eq_some hb) htag]

instance : LawfulForm TestMode where
  levels := 0
  readBack m := ofTag?_tag (by cases m <;> decide) (by cases m <;> decide)
  regular _ := .str _

instance : LawfulForm ProviderVersion where
  levels := 0
  readBack v := ofTag?_tag (by cases v <;> decide) (by cases v <;> decide)
  regular _ := .str _

instance : LawfulForm TestOutcome where
  levels := 0
  readBack o := ofTag?_tag (by cases o <;> decide) (by cases o <;> decide)
  regular _ := .str _

instance : LawfulForm BuildState where
  levels := 0
  readBack s := ofTag?_tag (by cases s <;> decide) (by cases s <;> decide)
  regular _ := .str _

instance : LawfulForm Terminal where
  levels := 0
  readBack t := ofTag?_tag (by cases t <;> decide) (by cases t <;> decide)
  regular _ := .str _

instance : ValuedForm Terminal where
  ne_null _ := nofun

/-! ## Results -/

instance : LawfulRecord RunResult where
  levels := 2
  readBack _ := by
    unfold instJsonFormRunResult
    simp
  regular _ := .obj (by simp) (by simp (disch := decide) [LawfulForm.regular_of_le])
  ne_null _ := nofun
  required := ["passed", "failed", "skipped", "panics"]
  optional := []
  readsOnly ms ms' hreq _ := by
    unfold instJsonFormRunResult
    simp [field_eq, hreq]

instance : LawfulRecord PhaseRun where
  levels := 3
  readBack _ := by
    unfold instJsonFormPhaseRun
    simp
  regular _ := .obj (by simp) (by simp (disch := decide) [LawfulForm.regular_of_le])
  ne_null _ := nofun
  required := ["result"]
  optional := ["exit_error"]
  readsOnly ms ms' hreq hopt := by
    unfold instJsonFormPhaseRun
    simp [field_eq, optionalField_eq, hreq, hopt]

instance : LawfulRecord UnexercisedTests where
  levels := 2
  readBack _ := by
    unfold instJsonFormUnexercisedTests
    simp
  regular _ := .obj (by simp) (by simp (disch := decide) [LawfulForm.regular_of_le])
  ne_null _ := nofun
  required := ["not_run_beta", "not_run_ga"]
  optional := []
  readsOnly ms ms' hreq _ := by
    unfold instJsonFormUnexercisedTests
    simp [field_eq, hreq]

/-! ## Surfaces and verdicts -/

instance : LawfulRecord ChangeSurface where
  levels := 2
  readBack _ := by
    unfold instJsonFormChangeSurface
    simp
  regular _ := .obj (by simp) (by simp (disch := decide) [LawfulForm.regular_of_le])
  ne_null _ := nofun
  required := ["affected_packages", "run_full_sweep"]
  optional := []
  readsOnly ms ms' hreq _ := by
    unfold instJsonFormChangeSurface
    simp [field_eq, hreq]

instance : LawfulRecord SurfaceRules where
  levels := 2
  readBack _ := by
    unfold instJsonFormSurfaceRules
    simp
  regular _ := .obj (by simp) (by simp (disch := decide) [LawfulForm.regular_of_le])
  ne_null _ := nofun
  required := ["service_roots", "ignored_files"]
  optional := []
  readsOnly ms ms' hreq _ := by
    unfold instJsonFormSurfaceRules
    simp [field_eq, hreq]

instance : LawfulRecord Verdict where
  levels := 2
  readBack _ := by
    unfold instJsonFormVerdict
    simp
  regular _ := .obj (by simp) (by simp (disch := decide) [LawfulForm.regular_of_le])
  ne_null _ := nofun
  required := ["passed", "violations", "message"]
  optional := []
  readsOnly ms ms' hreq _ := by
    unfold instJsonFormVerdict
    simp [field_eq, hreq]

/-! ## Configurations -/

instance : LawfulForm Path where
  levels := 0
  readBack _ := rfl
  regular p := .str p.text

instance : ValuedForm Path where
  ne_null _ := nofun

instance : LawfulRecord ReviewTarget where
  levels := 1
  readBack _ := by
    unfold instJsonFormReviewTarget
    simp
  regular _ := .obj (by simp) (by simp (disch := decide) [LawfulForm.regular_of_le])
  ne_null _ := nofun
  required := ["number", "commit_sha"]
  optional := []
  readsOnly ms ms' hreq _ := by
    unfold instJsonFormReviewTarget
    simp [field_eq, hreq]

instance : LawfulRecord BuildIdentity where
  levels := 1
  readBack _ := by
    unfold instJsonFormBuildIdentity
    simp
  regular _ := .obj (by simp) (by simp (disch := decide) [LawfulForm.regular_of_le])
  ne_null _ := nofun
  required := ["build_id", "project_id", "build_step"]
  optional := []
  readsOnly ms ms' hreq _ := by
    unfold instJsonFormBuildIdentity
    simp [field_eq, hreq]

instance : LawfulRecord Parallelism where
  levels := 1
  readBack _ := by
    unfold instJsonFormParallelism
    simp
  regular _ := .obj (by simp) (by simp (disch := decide) [LawfulForm.regular_of_le])
  ne_null _ := nofun
  required := ["acc_test_parallelism", "replaying_jobs", "recording_jobs"]
  optional := []
  readsOnly ms ms' hreq _ := by
    unfold instJsonFormParallelism
    simp [field_eq, hreq]

instance : LawfulRecord Layout where
  levels := 1
  readBack _ := by
    unfold instJsonFormLayout
    simp
  regular _ := .obj (by simp) (by simp (disch := decide) [LawfulForm.regular_of_le])
  ne_null _ := nofun
  required := ["base_dir", "repo_path"]
  optional := []
  readsOnly ms ms' hreq _ := by
    unfold instJsonFormLayout
    simp [field_eq, hreq]

instance : LawfulRecord Config where
  levels := 2
  readBack _ := by
    unfold instJsonFormConfig
    simp
  regular _ := .obj (by simp) (by simp (disch := decide) [LawfulForm.regular_of_le])
  ne_null _ := nofun
  required :=
    ["version", "base_branch", "build", "log_bucket", "cassette_bucket", "check_name",
     "parallelism", "timeout_secs", "layout", "test_env"]
  optional := []
  readsOnly ms ms' hreq _ := by
    unfold instJsonFormConfig
    simp [field_eq, hreq]

instance : LawfulRecord RetryPolicy where
  levels := 2
  readBack _ := by
    unfold instJsonFormRetryPolicy
    simp
  regular _ := .obj (by simp) (by simp (disch := decide) [LawfulForm.regular_of_le])
  ne_null _ := nofun
  required := ["max_retries", "initial_backoff_ms", "max_backoff_ms", "retry_status_codes"]
  optional := []
  readsOnly ms ms' hreq _ := by
    unfold instJsonFormRetryPolicy
    simp [field_eq, hreq]

instance : LawfulRecord ReviewSettings where
  levels := 3
  readBack _ := by
    unfold instJsonFormReviewSettings
    simp
  regular _ := .obj (by simp) (by simp (disch := decide) [LawfulForm.regular_of_le])
  ne_null _ := nofun
  required := ["api_url", "owner", "repo", "token", "retry"]
  optional := []
  readsOnly ms ms' hreq _ := by
    unfold instJsonFormReviewSettings
    simp [field_eq, hreq]

/-! ## Commands -/

/-- A duration adds up to itself. -/
theorem Duration.ofParts?_parts (d : Duration) : Duration.ofParts? d.secs d.nanos = some d := by
  obtain ⟨secs, nanos, hlt⟩ := d
  have hdiv : (secs.toNat * nanosPerSec + nanos.toNat) / nanosPerSec = secs.toNat := by
    rw [Nat.mul_comm, Nat.mul_add_div (by decide), Nat.div_eq_of_lt hlt, Nat.add_zero]
  have hmod : (secs.toNat * nanosPerSec + nanos.toNat) % nanosPerSec = nanos.toNat := by
    rw [Nat.mul_comm, Nat.mul_add_mod, Nat.mod_eq_of_lt hlt]
  unfold ofParts? ofNanos?
  simp only [hdiv, hmod, UInt64.ofNat_toNat, UInt32.ofNat_toNat, if_pos secs.toNat_lt]

/-- A duration is read from its seconds and nanoseconds if it has no other members. -/
theorem Duration.ofJson?_obj {ms : List (String × Json)}
    (h : ∀ m ∈ ms, m.1 = "secs" ∨ m.1 = "nanos") :
    ofJson? (.obj ms) = (field ms "secs").bind fun secs =>
      (field ms "nanos").bind fun nanos => Duration.ofParts? secs nanos := by
  -- other members would be refused here
  have hknown : (guard (ms.all fun f => f.1 == "secs" || f.1 == "nanos") : Option Unit) =
      some () := if_pos (by simpa using h)
  show ((guard (ms.all fun f => f.1 == "secs" || f.1 == "nanos") : Option Unit).bind fun _ =>
    (field ms "secs" : Option UInt64).bind fun secs =>
      (field ms "nanos" : Option UInt32).bind fun nanos => Duration.ofParts? secs nanos) = _
  rw [hknown, Option.bind_some]

/-- Seconds and nanoseconds are read as their sum. -/
theorem Duration.ofJson?_parts (secs : UInt64) (nanos : UInt32) :
    ofJson? (.obj [("secs", toJson secs), ("nanos", toJson nanos)]) =
      Duration.ofParts? secs nanos := by
  rw [ofJson?_obj (by simp), field_cons_self, field_cons_of_ne (by decide), field_cons_self,
    Option.bind_some, Option.bind_some]

instance : LawfulForm Duration where
  levels := 1
  readBack d := (Duration.ofJson?_parts d.secs d.nanos).trans (Duration.ofParts?_parts d)
  regular _ := .obj (by simp) (by simp (disch := decide) [LawfulForm.regular_of_le])

instance : ValuedForm Duration where
  ne_null _ := nofun

instance : LawfulRecord Command where
  levels := 2
  readBack _ := by
    unfold instJsonFormCommand
    simp
  regular _ := .obj (by simp) (by simp (disch := decide) [LawfulForm.regular_of_le])
  ne_null _ := nofun
  required := ["program", "args", "env"]
  optional := ["cwd", "timeout"]
  readsOnly ms ms' hreq hopt := by
    unfold instJsonFormCommand
    simp [field_eq, optionalField_eq, hreq, hopt]

instance : LawfulRecord RunOptions where
  levels := 2
  readBack _ := by
    unfold instJsonFormRunOptions
    simp
  regular _ := .obj (by simp) (by simp (disch := decide) [LawfulForm.regular_of_le])
  ne_null _ := nofun
  required := ["mode", "version", "cassette_dir", "test_dirs", "tests"]
  optional := []
  readsOnly ms ms' hreq _ := by
    unfold instJsonFormRunOptions
    simp [field_eq, hreq]

/-! ## Uploads -/

/-- A day and a build are read back from behind their tag. -/
@[simp] theorem dayAndBuild?_dayAndBuild (date buildId : String) :
    dayAndBuild? (dayAndBuild date buildId) = some (date, buildId) := by
  simp [dayAndBuild?, dayAndBuild, tagged?]

theorem regular_dayAndBuild (date buildId : String) : Regular 1 (dayAndBuild date buildId) :=
  .obj (by simp) (by simp (disch := decide) [LawfulForm.regular_of_le])

theorem readsOnly_dayAndBuild? : ReadsOnly dayAndBuild? ["date", "build_id"] [] := by
  intro ms ms' hreq _
  simp [dayAndBuild?, tagged?, field_eq, hreq]

instance : LawfulForm UploadTarget where
  levels := 2
  readBack t := by
    unfold instJsonFormUploadTarget
    cases t with
    | main => rfl
    | head branch => rfl
    | backup date buildId => simp [choice?]
  regular t := by
    cases t with
    | main => exact .str _
    | head branch => exact .obj (by simp) (by simp (disch := decide) [LawfulForm.regular_of_le])
    | backup date buildId => exact .obj (by simp) (by simp [regular_dayAndBuild])

instance : LawfulForm LogDestination where
  levels := 2
  readBack d := by
    unfold instJsonFormLogDestination
    cases d with
    | review head buildId => simp [choice?, tagged?]
    | nightly date buildId => simp [choice?]
  regular d := by
    cases d with
    | review head buildId =>
        have hinside : Regular 1 (.obj [("head", toJson head), ("build_id", toJson buildId)]) :=
          .obj (by simp) (by simp (disch := decide) [LawfulForm.regular_of_le])
        exact .obj (by simp) (by simp [hinside])
    | nightly date buildId => exact .obj (by simp) (by simp [regular_dayAndBuild])

instance : LawfulRecord LogUpload where
  levels := 3
  readBack _ := by
    unfold instJsonFormLogUpload
    simp
  regular _ := .obj (by simp) (by simp (disch := decide) [LawfulForm.regular_of_le])
  ne_null _ := nofun
  required := ["mode", "version", "destination", "parallel", "after_recording"]
  optional := []
  readsOnly ms ms' hreq _ := by
    unfold instJsonFormLogUpload
    simp [field_eq, hreq]

/-! ## Stored states -/

instance : LawfulForm RunId where
  levels := 0
  readBack := RunId.ofText?_text
  regular id := .str id.text

instance : LawfulForm Timestamp where
  levels := 0
  readBack := Timestamp.ofText?_text
  regular t := .str t.text

instance : LawfulRecord RunRecord where
  levels := 4
  readBack _ := by
    unfold instJsonFormRunRecord
    simp [RunState.members, RunState.ofMembers?]
  regular _ := .obj (by simp [RunState.members])
    (by simp (disch := decide) [RunState.members, LawfulForm.regular_of_le])
  ne_null _ := nofun
  required :=
    ["run_id", "started_at", "mode", "surface", "test_dirs", "non_exercised", "cassettes_uploaded"]
  optional := ["replay", "record", "replay_after_record", "terminal"]
  readsOnly ms ms' hreq hopt := by
    unfold instJsonFormRunRecord
    simp [RunState.ofMembers?, field_eq, optionalField_eq, hreq, hopt]

/-! ## All forms -/

theorem Duration.ofJson?_parts_eq_some_iff {secs : UInt64} {nanos : UInt32} {d : Duration} :
    ofJson? (.obj [("secs", toJson secs), ("nanos", toJson nanos)]) = some d ↔
      d.toNanos = secs.toNat * nanosPerSec + nanos.toNat := by
  rw [ofJson?_parts]
  constructor
  · intro h
    exact toNat_nanos_ofNanos? h
  · intro h
    unfold ofParts?
    rw [← h]
    exact ofParts?_parts d

theorem NameSet.ofJson?_eq_some_iff {names : List String} {s : NameSet} :
    ofJson? (toJson names) = some s ↔ ∀ name, name ∈ s ↔ name ∈ names := by
  rw [ofJson?_nameSet, Option.some.injEq, NameSet.ext_iff]
  simp only [NameSet.mem_ofList, iff_comm]

/-- What holds of the forms of all stored types. -/
structure StoredForms : Prop where
  mode : RoundTrip TestMode
  version : RoundTrip ProviderVersion
  outcome : RoundTrip TestOutcome
  status : RoundTrip BuildState
  terminal : RoundTrip Terminal
  result : RecordRoundTrip RunResult ["passed", "failed", "skipped", "panics"] []
  phase : RecordRoundTrip PhaseRun ["result"] ["exit_error"]
  unexercised : RecordRoundTrip UnexercisedTests ["not_run_beta", "not_run_ga"] []
  surface : RecordRoundTrip ChangeSurface ["affected_packages", "run_full_sweep"] []
  rules : RecordRoundTrip SurfaceRules ["service_roots", "ignored_files"] []
  verdict : RecordRoundTrip Verdict ["passed", "violations", "message"] []
  target : RecordRoundTrip ReviewTarget ["number", "commit_sha"] []
  build : RecordRoundTrip BuildIdentity ["build_id", "project_id", "build_step"] []
  parallelism : RecordRoundTrip Parallelism
    ["acc_test_parallelism", "replaying_jobs", "recording_jobs"] []
  layout : RecordRoundTrip Layout ["base_dir", "repo_path"] []
  config : RecordRoundTrip Config
    ["version", "base_branch", "build", "log_bucket", "cassette_bucket", "check_name",
     "parallelism", "timeout_secs", "layout", "test_env"] []
  retry : RecordRoundTrip RetryPolicy
    ["max_retries", "initial_backoff_ms", "max_backoff_ms", "retry_status_codes"] []
  settings : RecordRoundTrip ReviewSettings ["api_url", "owner", "repo", "token", "retry"] []
  command : RecordRoundTrip Command ["program", "args", "env"] ["cwd", "timeout"]
  options : RecordRoundTrip RunOptions
    ["mode", "version", "cassette_dir", "test_dirs", "tests"] []
  uploadTarget : RoundTrip UploadTarget
  logDestination : RoundTrip LogDestination
  logUpload : RecordRoundTrip LogUpload
    ["mode", "version", "destination", "parallel", "after_recording"] []
  record : RecordRoundTrip RunRecord
    ["run_id", "started_at", "mode", "surface", "test_dirs", "non_exercised",
     "cassettes_uploaded"]
    ["replay", "record", "replay_after_record", "terminal"]
  /-- Only the fields behind a tag count, like those of a record. -/
  backup : ReadsOnly (fun j => (ofJson? (.obj [("Backup", j)]) : Option UploadTarget))
    ["date", "build_id"] []
  review : ReadsOnly (fun j => (ofJson? (.obj [("Review", j)]) : Option LogDestination))
    ["head", "build_id"] []
  nightly : ReadsOnly (fun j => (ofJson? (.obj [("Nightly", j)]) : Option LogDestination))
    ["date", "build_id"] []
  /-- A list of names stands for the set of them, in whatever order and however often they occur. -/
  names (names : List String) (s : NameSet) :
    ofJson? (toJson names) = some s ↔ ∀ name, name ∈ s ↔ name ∈ names
  duration : RoundTrip Duration
  /-- Any number of nanoseconds is added to the seconds. -/
  carry (secs : UInt64) (nanos : UInt32) (d : Duration) :
    ofJson? (.obj [("secs", toJson secs), ("nanos", toJson nanos)]) = some d ↔
      d.toNanos = secs.toNat * nanosPerSec + nanos.toNat

/-- Every stored value comes back from its form and from the text of its form, and whatever else it
    is read from is brought into its form in one step. -/
theorem stored_forms : StoredForms where
  mode := LawfulForm.roundTrip (by decide)
  version := LawfulForm.roundTrip (by decide)
  outcome := LawfulForm.roundTrip (by decide)
  status := LawfulForm.roundTrip (by decide)
  terminal := LawfulForm.roundTrip (by decide)
  result := LawfulRecord.roundTrip (by decide)
  phase := LawfulRecord.roundTrip (by decide)
  unexercised := LawfulRecord.roundTrip (by decide)
  surface := LawfulRecord.roundTrip (by decide)
  rules := LawfulRecord.roundTrip (by decide)
  verdict := LawfulRecord.roundTrip (by decide)
  target := LawfulRecord.roundTrip (by decide)
  build := LawfulRecord.roundTrip (by decide)
  parallelism := LawfulRecord.roundTrip (by decide)
  layout := LawfulRecord.roundTrip (by decide)
  config := LawfulRecord.roundTrip (by decide)
  retry := LawfulRecord.roundTrip (by decide)
  settings := LawfulRecord.roundTrip (by decide)
  command := LawfulRecord.roundTrip (by decide)
  options := LawfulRecord.roundTrip (by decide)
  uploadTarget := LawfulForm.roundTrip (by decide)
  logDestination := LawfulForm.roundTrip (by decide)
  logUpload := LawfulRecord.roundTrip (by decide)
  record := LawfulRecord.roundTrip (by decide)
  backup ms ms' hreq hopt := by
    unfold instJsonFormUploadTarget
    simp [choice?, readsOnly_dayAndBuild? ms ms' hreq hopt]
  review ms ms' hreq _ := by
    unfold instJsonFormLogDestination
    simp [choice?, tagged?, field_eq, hreq]
  nightly ms ms' hreq hopt := by
    unfold instJsonFormLogDestination
    simp [choice?, readsOnly_dayAndBuild? ms ms' hreq hopt]
  names _ _ := NameSet.ofJson?_eq_some_iff
  duration := LawfulForm.roundTrip (by decide)
  carry _ _ _ := Duration.ofJson?_parts_eq_some_iff

end CassetteGate
