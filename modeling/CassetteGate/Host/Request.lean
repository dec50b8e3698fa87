import CassetteGate.Event
import CassetteGate.Host.OsError
import CassetteGate.Invocation
import CassetteGate.Json.Basic
import CassetteGate.Program.Basic

/-!
# `Host.Request` — what is asked of the machine

Everything that reaches beyond the run itself goes through one kind of request: files, processes,
the web and the log. Workers are the one place where things happen at the same time: a list of
commands is handed over, and what comes back is in the order in which they finished.

## Contents
- **`Worker`**, **`WorkerFault`**, **`Finished`**: commands that run beside each other.
- **`WebPost`**, **`WebReply`**: what is sent over the web, and what comes back.
- **`Host.Request`**, **`Host.Request.Answer`**, **`HostProgram`**.
- One operation per request.
-/

namespace CassetteGate

/-! ## What requests carry -/

/-- A command whose output goes to a file of its own. -/
structure Worker where
  /-- The command. -/
  command : Command
  /-- The file that the output is added to. -/
  log : Path
  deriving DecidableEq

/-- Why a worker could not do its work. -/
inductive WorkerFault where
  /-- Its command could not be started. -/
  | launch (cause : OsError)
  /-- Its output could not be kept. -/
  | log (cause : OsError)
  deriving DecidableEq

/-- A worker that has done its work. -/
structure Finished where
  /-- Which of the workers it is, counted from 0. -/
  index : Nat
  /-- What became of its command. -/
  output : CommandOutput
  deriving DecidableEq

/-- A JSON value to send. -/
structure WebPost where
  /-- Where to. -/
  url : String
  /-- What proves who sends it. -/
  token : String
  /-- The value. -/
  body : Json

/-- What comes back. -/
structure WebReply where
  /-- The status. -/
  status : UInt16
  /-- The text behind it. -/
  body : String
  deriving DecidableEq

/-- A line of the log. -/
inductive LogLine where
  /-- A command is about to be started. -/
  | command (entry : LoggedCommand)
  /-- Something happened in the run. -/
  | event (event : Event)
  deriving DecidableEq

namespace Host

/-! ## Requests -/

/-- What is asked of the machine. -/
inductive Request where
  /-- Is there a directory? -/
  | isDirectory (path : Path)
  /-- Make a directory and those above it, as far as they are missing. -/
  | createDirectories (path : Path)
  /-- Remove a directory with all that is in it. -/
  | removeTree (path : Path)
  /-- Make a file with the given text, in place of what it held. -/
  | writeFile (path : Path) (text : String)
  /-- Add text to a file, which is made first if there is none. -/
  | appendFile (path : Path) (text : String)
  /-- Remove a file. -/
  | removeFile (path : Path)
  /-- Read a file. -/
  | readFile (path : Path)
  /-- Run a command to its end or its deadline. -/
  | execute (command : Command)
  /-- Run workers, as many at a time as given. -/
  | runWorkers (jobs : UInt64) (workers : List Worker)
  /-- Send a value over the web. -/
  | post (post : WebPost)
  /-- Wait. -/
  | pause (millis : Nat)
  /-- Write to the log. -/
  | log (line : LogLine)

/-- The answers to requests. The answer on workers lists them in the order in which they finished,
    or gives the first fault of any. -/
@[reducible] def Request.Answer : Request → Type
  | .isDirectory _ => Bool
  | .createDirectories _ => Except OsError Unit
  | .removeTree _ => Except OsError Unit
  | .writeFile _ _ => Except OsError Unit
  | .appendFile _ _ => Except OsError Unit
  | .removeFile _ => Except OsError Unit
  | .readFile _ => Except OsError String
  | .execute _ => Except OsError CommandOutput
  | .runWorkers _ _ => Except WorkerFault (List Finished)
  | .post _ => Option WebReply
  | .pause _ => Unit
  | .log _ => Unit

end Host

/-- Programs that work on a machine. -/
abbrev HostProgram (α : Type) : Type := Program Host.Request.Answer α

namespace Host

/-- Asks the machine. -/
def ask (q : Request) : HostProgram q.Answer := Program.request q

/-- Writes to the log. -/
def log (line : LogLine) : HostProgram Unit := ask (.log line)

/-- Makes the directory that a path lies in, and those above it. -/
def createParent (path : Path) : HostProgram (Except OsError Unit) :=
  match path.parent? with
  | some parent => ask (.createDirectories parent)
  | none => return .ok ()

/-- Adds text to a file, whose directory is made first if there is none. -/
def appendLog (path : Path) (text : String) : HostProgram (Except OsError Unit) := do
  match ← createParent path with
  | .ok () => ask (.appendFile path text)
  | .error e => return .error e

end Host

end CassetteGate
