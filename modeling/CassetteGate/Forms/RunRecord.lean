import CassetteGate.Forms.Results
import CassetteGate.RunRecord

/-!
# `Forms.RunRecord` — the JSON form of a stored state

The fields of the state stand beside the identifier and the start of the run.
-/

namespace CassetteGate

open Json

instance : JsonForm RunId where
  toJson id := .str id.text
  ofJson? j := (ofJson? j : Option String).bind RunId.ofText?

instance : JsonForm Timestamp where
  toJson t := .str t.text
  ofJson? j := (ofJson? j : Option String).bind Timestamp.ofText?

/-- The fields of a state, in order. -/
def RunState.members (s : RunState) : List (String × Json) :=
  [("mode", toJson s.mode), ("surface", toJson s.surface), ("test_dirs", toJson s.testDirs),
   ("replay", toJson s.replay), ("record", toJson s.record),
   ("replay_after_record", toJson s.confirm), ("non_exercised", toJson s.unexercised),
   ("cassettes_uploaded", toJson s.cassettesUploaded), ("terminal", toJson s.terminal)]

/-- The state that fields by name make. -/
def RunState.ofMembers? (fs : List (String × Json)) : Option RunState := do
  return {
    mode := ← field fs "mode"
    surface := ← field fs "surface"
    testDirs := ← field fs "test_dirs"
    replay := ← optionalField fs "replay"
    record := ← optionalField fs "record"
    confirm := ← optionalField fs "replay_after_record"
    unexercised := ← field fs "non_exercised"
    cassettesUploaded := ← field fs "cassettes_uploaded"
    terminal := ← optionalField fs "terminal" }

instance : JsonForm RunRecord where
  toJson r := .obj
    (("run_id", toJson r.runId) :: ("started_at", toJson r.startedAt) :: r.state.members)
  ofJson? j := do
    let fs ← record?
      ["run_id", "started_at", "mode", "surface", "test_dirs", "replay", "record",
       "replay_after_record", "non_exercised", "cassettes_uploaded", "terminal"] j
    return {
      runId := ← field fs "run_id"
      startedAt := ← field fs "started_at"
      state := ← RunState.ofMembers? fs }

end CassetteGate
