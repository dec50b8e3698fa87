import CassetteGate.Config.Basic
import CassetteGate.Forms.Results
import CassetteGate.Review.Settings

/-!
# `Forms.Config` — JSON forms of configurations

Instances for a run's configuration with its parts, and for the settings of the review platform.
-/

namespace CassetteGate

open Json

instance : JsonForm Path where
  toJson p := .str p.text
  ofJson? j := (ofJson? j : Option String).map Path.mk

/-! ## The configuration of a run -/

instance : JsonForm ReviewTarget where
  toJson t := .obj [("number", toJson t.number), ("commit_sha", toJson t.commitSha)]
  ofJson? j := do
    let fs ← record? ["number", "commit_sha"] j
    return {
      number := ← field fs "number"
      commitSha := ← field fs "commit_sha" }

instance : JsonForm BuildIdentity where
  toJson b := .obj
    [("build_id", toJson b.buildId), ("project_id", toJson b.projectId),
     ("build_step", toJson b.buildStep)]
  ofJson? j := do
    let fs ← record? ["build_id", "project_id", "build_step"] j
    return {
      buildId := ← field fs "build_id"
      projectId := ← field fs "project_id"
      buildStep := ← field fs "build_step" }

instance : JsonForm Parallelism where
  toJson p := .obj
    [("acc_test_parallelism", toJson p.acceptance), ("replaying_jobs", toJson p.replayingJobs),
     ("recording_jobs", toJson p.recordingJobs)]
  ofJson? j := do
    let fs ← record? ["acc_test_parallelism", "replaying_jobs", "recording_jobs"] j
    return {
      acceptance := ← field fs "acc_test_parallelism"
      replayingJobs := ← field fs "replaying_jobs"
      recordingJobs := ← field fs "recording_jobs" }

instance : JsonForm Layout where
  toJson l := .obj [("base_dir", toJson l.baseDir), ("repo_path", toJson l.repoPath)]
  ofJson? j := do
    let fs ← record? ["base_dir", "repo_path"] j
    return {
      baseDir := ← field fs "base_dir"
      repoPath := ← field fs "repo_path" }

instance : JsonForm Config where
  toJson c := .obj
    [("version", toJson c.version), ("base_branch", toJson c.baseBranch),
     ("build", toJson c.build), ("log_bucket", toJson c.logBucket),
     ("cassette_bucket", toJson c.cassetteBucket), ("check_name", toJson c.checkName),
     ("parallelism", toJson c.parallelism), ("timeout_secs", toJson c.timeoutSecs),
     ("layout", toJson c.layout), ("test_env", toJson c.testEnv)]
  ofJson? j := do
    let fs ← record?
      ["version", "base_branch", "build", "log_bucket", "cassette_bucket", "check_name",
       "parallelism", "timeout_secs", "layout", "test_env"] j
    return {
      version := ← field fs "version"
      baseBranch := ← field fs "base_branch"
      build := ← field fs "build"
      logBucket := ← field fs "log_bucket"
      cassetteBucket := ← field fs "cassette_bucket"
      checkName := ← field fs "check_name"
      parallelism := ← field fs "parallelism"
      timeoutSecs := ← field fs "timeout_secs"
      layout := ← field fs "layout"
      testEnv := ← field fs "test_env" }

/-! ## The review platform -/

instance : JsonForm RetryPolicy where
  toJson p := .obj
    [("max_retries", toJson p.maxRetries), ("initial_backoff_ms", toJson p.initialBackoffMs),
     ("max_backoff_ms", toJson p.maxBackoffMs), ("retry_status_codes", toJson p.retryStatuses)]
  ofJson? j := do
    let fs ← record?
      ["max_retries", "initial_backoff_ms", "max_backoff_ms", "retry_status_codes"] j
    return {
      maxRetries := ← field fs "max_retries"
      initialBackoffMs := ← field fs "initial_backoff_ms"
      maxBackoffMs := ← field fs "max_backoff_ms"
      retryStatuses := ← field fs "retry_status_codes" }

instance : JsonForm ReviewSettings where
  toJson s := .obj
    [("api_url", toJson s.apiUrl), ("owner", toJson s.owner), ("repo", toJson s.repo),
     ("token", toJson s.token), ("retry", toJson s.retry)]
  ofJson? j := do
    let fs ← record? ["api_url", "owner", "repo", "token", "retry"] j
    return {
      apiUrl := ← field fs "api_url"
      owner := ← field fs "owner"
      repo := ← field fs "repo"
      token := ← field fs "token"
      retry := ← field fs "retry" }

end CassetteGate
