import CassetteGate.Command
import CassetteGate.Forms.Config
import CassetteGate.Pipeline.Collaborators

/-!
# `Forms.Requests` — JSON forms of what a run asks for

Instances for durations and commands, for the options of test runs, and for uploads.
-/

namespace CassetteGate

open Json

/-! ## Commands -/

/-- Seconds and nanoseconds; whole seconds among the nanoseconds are carried over. Other members
    are refused. -/
instance : JsonForm Duration where
  toJson d := .obj [("secs", toJson d.secs), ("nanos", toJson d.nanos)]
  ofJson? j := do
    let fs ← record? ["secs", "nanos"] j
    guard (fs.all fun f => f.1 == "secs" || f.1 == "nanos")
    Duration.ofParts? (← field fs "secs") (← field fs "nanos")

instance : JsonForm Command where
  toJson c := .obj
    [("program", toJson c.program), ("args", toJson c.args), ("env", toJson c.env),
     ("cwd", toJson c.cwd), ("timeout", toJson c.timeout)]
  ofJson? j := do
    let fs ← record? ["program", "args", "env", "cwd", "timeout"] j
    return {
      program := ← field fs "program"
      args := ← field fs "args"
      env := ← field fs "env"
      cwd := ← optionalField fs "cwd"
      timeout := ← optionalField fs "timeout" }

instance : JsonForm RunOptions where
  toJson o := .obj
    [("mode", toJson o.mode), ("version", toJson o.version),
     ("cassette_dir", toJson o.cassetteDir), ("test_dirs", toJson o.testDirs),
     ("tests", toJson o.tests)]
  ofJson? j := do
    let fs ← record? ["mode", "version", "cassette_dir", "test_dirs", "tests"] j
    return {
      mode := ← field fs "mode"
      version := ← field fs "version"
      cassetteDir := ← field fs "cassette_dir"
      testDirs := ← field fs "test_dirs"
      tests := ← field fs "tests" }

/-! ## Uploads -/

/-- A day and a build, as they stand behind a tag. -/
def Json.dayAndBuild (date buildId : String) : Json :=
  .obj [("date", toJson date), ("build_id", toJson buildId)]

/-- The day and the build of a JSON form. -/
def Json.dayAndBuild? (j : Json) : Option (String × String) := do
  let fs ← tagged? j
  return (← field fs "date", ← field fs "build_id")

instance : JsonForm UploadTarget where
  toJson
    | .main => .str "Main"
    | .head branch => .obj [("Head", toJson branch)]
    | .backup date buildId => .obj [("Backup", dayAndBuild date buildId)]
  ofJson? j := do
    match ← choice? j with
    | ("Main", none) => return .main
    | ("Main", some .null) => return .main
    | ("Head", some payload) => return .head (← ofJson? payload)
    | ("Backup", some payload) =>
        let (date, buildId) ← dayAndBuild? payload
        return .backup date buildId
    | _ => none

instance : JsonForm LogDestination where
  toJson
    | .review head buildId =>
        .obj [("Review", .obj [("head", toJson head), ("build_id", toJson buildId)])]
    | .nightly date buildId => .obj [("Nightly", dayAndBuild date buildId)]
  ofJson? j := do
    match ← choice? j with
    | ("Review", some payload) =>
        let fs ← tagged? payload
        return .review (← field fs "head") (← field fs "build_id")
    | ("Nightly", some payload) =>
        let (date, buildId) ← dayAndBuild? payload
        return .nightly date buildId
    | _ => none

instance : JsonForm LogUpload where
  toJson u := .obj
    [("mode", toJson u.mode), ("version", toJson u.version),
     ("destination", toJson u.destination), ("parallel", toJson u.parallel),
     ("after_recording", toJson u.afterRecording)]
  ofJson? j := do
    let fs ← record? ["mode", "version", "destination", "parallel", "after_recording"] j
    return {
      mode := ← field fs "mode"
      version := ← field fs "version"
      destination := ← field fs "destination"
      parallel := ← field fs "parallel"
      afterRecording := ← field fs "after_recording" }

instance : JsonForm StatusPost where
  toJson p := .obj
    [("target", toJson p.target), ("check", toJson p.check), ("state", toJson p.state),
     ("target_url", toJson p.targetUrl)]
  ofJson? j := do
    let fs ← record? ["target", "check", "state", "target_url"] j
    return {
      target := ← field fs "target"
      check := ← field fs "check"
      state := ← field fs "state"
      targetUrl := ← field fs "target_url" }

end CassetteGate
