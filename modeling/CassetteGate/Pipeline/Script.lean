import CassetteGate.Pipeline.Transcript

/-!
# `Pipeline.Script` — collaborators that answer as they are told

A rehearsal of a run needs no machine: its collaborators take their answers from a script. The two
queues of the runner are independent of each other, and an exhausted queue answers with a clean
run that reported nothing.

## Contents
- **`ScriptedRun`**, **`ScriptedStores`**, **`Script`**: the answers.
- **`Script.answer`**, **`Script.rehearse`**: a run against a script.
- **`Script.reachedCalls`**: the requests that got as far as the runner.
-/

namespace CassetteGate

open Pipeline

/-- An answer of the runner. -/
structure ScriptedRun where
  /-- The answer. -/
  answer : Except RunnerFault PhaseRun
  /-- Whether the request gets as far as the runner, rather than failing on the way. -/
  reached : Bool
  deriving Inhabited

/-- How the stores and the review platform behave. -/
structure ScriptedStores where
  /-- Where fetched cassettes are. -/
  cassetteDir : Path
  /-- Whether nothing can be fetched. -/
  failFetch : Bool
  /-- Whether no cassettes can be published. -/
  failUpload : Bool
  /-- Which uploads of cassettes fail, counted from 0. -/
  failUploadsAt : List Nat
  /-- Whether no logs can be published. -/
  failLogs : Bool
  /-- Whether no comment can be posted. -/
  failReport : Bool
  /-- Whether no status can be posted. -/
  failStatus : Bool
  deriving Inhabited

/-- The answers that are still to be given. -/
structure Script where
  /-- For runs of whole packages. -/
  runs : List ScriptedRun
  /-- For runs of single tests. -/
  parallelRuns : List ScriptedRun
  /-- For everything else. -/
  stores : ScriptedStores
  /-- How many uploads of cassettes there have been. -/
  uploads : Nat
  deriving Inhabited

/-- Stores at which everything succeeds. -/
def ScriptedStores.willing : ScriptedStores :=
  ⟨⟨"/work/cassettes"⟩, false, false, [], false, false, false⟩

/-- What a collaborator answers that is told to fail. -/
def ServiceFault.scripted (command : String) : ServiceFault :=
  .commandFailed command "scripted failure"

namespace Script

/-- The answer to a request that can only succeed or fail as told. -/
def sideAnswer (fails : Bool) (command : String) : Except ServiceFault Unit :=
  if fails then .error (.scripted command) else .ok ()

/-- The answer to an upload of cassettes. That nothing can be published is found out first. -/
def uploadAnswer (s : Script) : Except ServiceFault Unit :=
  if s.stores.failUpload then .error (.commandFailed "gsutil cp" "AccessDeniedException: 403")
  else if s.stores.failUploadsAt.contains s.uploads then .error (.scripted "upload")
  else .ok ()

/-- The next answer of a queue, and the rest. -/
def next : List ScriptedRun → Except RunnerFault PhaseRun × List ScriptedRun
  | [] => (.ok .empty, [])
  | r :: rs => (r.answer, rs)

/-- The answer to a request, and what remains of the script. -/
def answer : (q : Request) → Script → q.Answer × Script
  | .runTests _, s =>
      let (answer, runs) := next s.runs
      (answer, { s with runs })
  | .runEach _, s =>
      let (answer, parallelRuns) := next s.parallelRuns
      (answer, { s with parallelRuns })
  | .fetch _ _ _, s =>
      (if s.stores.failFetch then .error (.missingCassettes "/nonexistent")
       else .ok s.stores.cassetteDir, s)
  | .upload _ _ _, s => (s.uploadAnswer, { s with uploads := s.uploads + 1 })
  | .uploadLogs _, s => (sideAnswer s.stores.failLogs "logs", s)
  | .postReport _ _, s => (sideAnswer s.stores.failReport "report", s)
  | .postStatus _, s => (sideAnswer s.stores.failStatus "status", s)
  | .emit _, s => ((), s)

/-- A run against a script: what it returns, and its transcript. -/
def rehearse {α : Type} (s : Script) (p : Pipeline α) : Except Failure α × Transcript :=
  let played := p.run.play answer s
  (played.result, played.exchanges)

/-- The requests among `calls` that got as far as the runner; `runs` and `parallelRuns` say how the
    requests of each kind are answered. -/
def reachedCalls : (runs parallelRuns : List ScriptedRun) → List RunnerCall → List RunnerCall
  | _, _, [] => []
  | runs, parallelRuns, call :: calls =>
      let queue := if call.parallel then parallelRuns else runs
      let rest :=
        if call.parallel then reachedCalls runs (parallelRuns.drop 1) calls
        else reachedCalls (runs.drop 1) parallelRuns calls
      if (queue.head?.map ScriptedRun.reached).getD true then call :: rest else rest

end Script

end CassetteGate
