import CassetteGate.Host.FileSystem
import CassetteGate.Host.Wire

/-!
# `Host.Sandbox` — a machine held in memory

A sandbox has files, programs that answer by rules, and a web server that answers from a list. It
answers every request that can be made of a machine, and keeps a record of the processes that were
started and of what was sent over the web.

## Contents
- **`Rule`**: how a program answers some of its calls.
- **`Launch`**, **`Sandbox`**, and **`Sandbox.furnished`**: a machine with programs.
- **`Sandbox.execute`**: the start of a process, with everything that can be refused before it.
- **`Sandbox.answer`**, **`Sandbox.perform`**: a machine for programs.
-/

namespace CassetteGate

/-! ## Programs -/

/-- How a process ends. -/
inductive Ending where
  /-- With an exit code. -/
  | exits (code : Int32)
  /-- By a signal. -/
  | killed
  /-- Not before it is killed. -/
  | hangs
  deriving DecidableEq, Inhabited

/-- How programs answer some of their calls. -/
structure Rule where
  /-- The program that the rule is for; any if none is named. -/
  program : Option String
  /-- Texts that must occur in the arguments. -/
  occurring : List String
  /-- How the process ends. -/
  ending : Ending
  /-- What it prints on standard output. -/
  stdout : List UInt8
  /-- What it prints on standard error. -/
  stderr : List UInt8
  deriving DecidableEq, Inhabited

namespace Rule

/-- Whether a rule is for a call. -/
def fits (r : Rule) (program : String) (args : List String) : Bool :=
  let line := " ".intercalate args
  (r.program.all fun name => name == program)
    && r.occurring.all fun text => Text.contains line text

/-- The rule for calls that no other rule is for: nothing is printed and all is well. -/
def silent : Rule := ⟨none, [], .exits 0, [], []⟩

/-- What becomes of a process that a rule is for. A process that hangs is killed at its deadline. -/
def output (r : Rule) (timeout : Option Duration) : CommandOutput :=
  let stdout := Text.Bytes.decode r.stdout
  let stderr := Text.Bytes.decode r.stderr
  match r.ending with
  | .exits code => ⟨some (Int32.ofInt (code.toInt % 256)), stdout, stderr, 0, false⟩
  | .killed => ⟨none, stdout, stderr, 0, false⟩
  | .hangs =>
      match timeout with
      | some limit => ⟨none, stdout, stderr, UInt64.ofNat limit.toMillis, true⟩
      | none => ⟨none, stdout, stderr, 0, false⟩

end Rule

/-- A process that was started. -/
structure Launch where
  /-- The program. -/
  program : String
  /-- Its arguments. -/
  args : List String
  /-- All variables it saw. -/
  env : Variables
  /-- Where it was started. -/
  cwd : Location
  deriving DecidableEq

/-! ## The machine -/

/-- A machine held in memory. -/
structure Sandbox where
  /-- Its files. -/
  files : FileSystem
  /-- The current directory. -/
  cwd : Location
  /-- The variables that processes inherit. -/
  env : Variables
  /-- How programs answer; the first rule that fits a call counts. -/
  rules : List Rule
  /-- What the web server answers; the last answer repeats. -/
  replies : List WebReply
  /-- The processes that were started, the last one first. -/
  launches : List Launch
  /-- What was sent over the web, the last request first. -/
  sent : List WireRequest

namespace Sandbox

/-- The programs that every machine has. -/
def tools : List String := ["go", "gsutil", "git"]

/-- A machine whose programs lie in `bin` below a directory, and that has nothing else there. -/
def furnished (base : Location) (env : Variables) (rules : List Rule) : Sandbox :=
  let bin := base ++ ["bin"]
  let above := (List.range (bin.length + 1)).map fun n => bin.take n
  let files := above.foldl (fun fs l => fs.put l .directory) FileSystem.empty
  { files := tools.foldl (fun fs name => fs.put (bin ++ [name]) (.program name)) files
    cwd := base
    env, rules
    replies := []
    launches := []
    sent := [] }

/-! ## Starting processes -/

/-- Whether a text holds the null character. -/
def hasNul (s : String) : Bool := s.toList.contains '\x00'

/-- Whether the null character stands anywhere in a command. -/
def nulInCommand (c : Command) : Bool :=
  hasNul c.program || c.args.any hasNul || (c.env.toList.any fun b => hasNul b.1 || hasNul b.2)
    || c.cwd.any fun p => hasNul p.text

/-- How many bytes an argument or a variable may have. -/
def maxTextBytes : Nat := 131071

/-- Whether something in a launch is too long to be handed to a process. -/
def overlong (l : Launch) : Bool :=
  (l.program :: l.args).any (fun s => s.utf8ByteSize > maxTextBytes)
    || l.env.toList.any fun b => b.1.utf8ByteSize + 1 + b.2.utf8ByteSize > maxTextBytes

/-- The directory that a command starts in. -/
def startDirectory (s : Sandbox) (c : Command) : Except OsError Location := do
  match c.cwd with
  | none => return s.cwd
  | some p =>
      match ← s.files.find s.cwd p with
      | (l, some .directory) => return l
      | (_, some _) => throw .notADirectory
      | (_, none) => throw .notFound

/-- The program at a path. Only programs can be started. -/
def programAt (s : Sandbox) (cwd : Location) (p : Path) : Except OsError String := do
  match ← s.files.find cwd p with
  | (_, some (.program name)) => return name
  | (_, some _) => throw .permissionDenied
  | (_, none) => throw .notFound

/-- The directories that programs are looked up in. -/
def searchPath (env : Variables) : List Path :=
  (Text.split (· == ':') ((env.seen? "PATH").getD "/bin:/usr/bin").toList).map fun dir =>
    if dir.isEmpty then ⟨"."⟩ else ⟨String.ofList dir⟩

/-- Whether a search goes on after a refusal. -/
def isPassedOver : OsError → Bool
  | .notFound => true
  | .notADirectory => true
  | .permissionDenied => true
  | _ => false

/-- The program of a name in the first directory that has one. If none has, the last refusal is
    said; that something was there which cannot be started is never forgotten. -/
def search (s : Sandbox) (cwd : Location) (name : String) (refusal : OsError) :
    List Path → Except OsError String
  | [] => .error refusal
  | dir :: dirs =>
      match s.programAt cwd (dir / name) with
      | .ok program => .ok program
      | .error e =>
          if isPassedOver e then
            search s cwd name (if refusal = .permissionDenied then refusal else e) dirs
          else .error e

/-- The program that a command starts: a name without slash is looked up. -/
def findProgram (s : Sandbox) (cwd : Location) (env : Variables) (program : String) :
    Except OsError String :=
  if program.isEmpty then .error .notFound
  else if program.toList.contains '/' then s.programAt cwd ⟨program⟩
  else s.search cwd program .notFound (searchPath env)

/-- The variables of a process. One that is started with variables of its own is handed them on top
    of what its starter reads; otherwise it inherits the entries of its starter as they are. -/
def variablesFor (s : Sandbox) (c : Command) : Variables :=
  if c.env.toList.isEmpty then s.env else s.env.reread.setAll c.env.toList

/-- The process that a command starts, if nothing is against it. -/
def launch? (s : Sandbox) (c : Command) : Except OsError Launch :=
  if nulInCommand c then .error .nulInCommand
  else do
    let cwd ← s.startDirectory c
    let env := s.variablesFor c
    let program ← s.findProgram cwd env c.program
    let launch : Launch := ⟨program, c.args, env, cwd⟩
    if overlong launch then throw .argumentListTooLong
    return launch

/-- Runs a command. -/
def execute (s : Sandbox) (c : Command) : Except OsError CommandOutput × Sandbox :=
  match s.launch? c with
  | .error e => (.error e, s)
  | .ok launch =>
      let rule := (s.rules.find? fun r => r.fits launch.program launch.args).getD .silent
      (.ok (rule.output c.timeout), { s with launches := launch :: s.launches })

/-! ## Files -/

/-- Changes the files. -/
def changeFiles (s : Sandbox) (changed : Except OsError Unit × FileSystem) :
    Except OsError Unit × Sandbox :=
  (changed.1, { s with files := changed.2 })

/-- Makes the directory that a path lies in, and those above it. -/
def createParent (s : Sandbox) (p : Path) : Except OsError Unit × Sandbox :=
  match p.parent? with
  | some dir => s.changeFiles (s.files.createDirectories s.cwd dir)
  | none => (.ok (), s)

/-- The machine with a file put at a path, as far as that can be done. -/
def withFile (s : Sandbox) (p : Path) (text : String) : Sandbox :=
  let s := (s.createParent p).2
  (s.changeFiles (s.files.writeFile s.cwd p text)).2

/-- The machine with a directory put at a path, as far as that can be done. -/
def withDirectory (s : Sandbox) (p : Path) : Sandbox :=
  (s.changeFiles (s.files.createDirectories s.cwd p)).2

/-- Adds text to a file, whose directory is made first if there is none. -/
def appendLog (s : Sandbox) (p : Path) (text : String) : Except OsError Unit × Sandbox :=
  match s.createParent p with
  | (.ok (), s) => s.changeFiles (s.files.appendFile s.cwd p text)
  | (.error e, s) => (.error e, s)

/-! ## Workers -/

/-- Lets workers work one after the other, up to the first that cannot. -/
def work (s : Sandbox) (index : Nat) : List Worker → Except WorkerFault (List Finished) × Sandbox
  | [] => (.ok [], s)
  | w :: ws =>
      match s.execute w.command with
      | (.error e, s) => (.error (.launch e), s)
      | (.ok output, s) =>
          match s.appendLog w.log output.combined with
          | (.error e, s) => (.error (.log e), s)
          | (.ok (), s) =>
              match work s (index + 1) ws with
              | (.ok finished, s) => (.ok (⟨index, output⟩ :: finished), s)
              | (.error e, s) => (.error e, s)

/-! ## The web -/

/-- Whether a status ends an exchange. Those below 200 announce another one, but for the one that
    leaves the connection to something else. -/
def isFinal (status : UInt16) : Bool := status = 101 || (200 ≤ status && status ≤ 999)

/-- The statuses behind which there is never a text. -/
def textless : List UInt16 := [101, 204, 304]

/-- What a connection gives for a status: none for one that is not final, and no text with a status
    that has none. -/
def received (r : WebReply) : Option WebReply :=
  if !isFinal r.status then none
  else if textless.contains r.status then some { r with body := "" }
  else some r

/-- Sends a request to the server. -/
def send (s : Sandbox) (p : WebPost) : Option WebReply × Sandbox :=
  match WireRequest.ofPost? p with
  | none => (none, s)
  | some request =>
      match s.replies with
      | [] => (none, s)
      | reply :: rest =>
          (received reply,
            { s with
              replies := if rest.isEmpty then [reply] else rest
              sent := request :: s.sent })

/-! ## Requests -/

/-- The answer to a request, and the machine after it. -/
def answer : (q : Host.Request) → Sandbox → q.Answer × Sandbox
  | .isDirectory p, s => (s.files.isDirectory s.cwd p, s)
  | .createDirectories p, s => s.changeFiles (s.files.createDirectories s.cwd p)
  | .removeTree p, s => s.changeFiles (s.files.removeTree s.cwd p)
  | .writeFile p text, s => s.changeFiles (s.files.writeFile s.cwd p text)
  | .appendFile p text, s => s.changeFiles (s.files.appendFile s.cwd p text)
  | .removeFile p, s => s.changeFiles (s.files.removeFile s.cwd p)
  | .readFile p, s => (s.files.readFile s.cwd p, s)
  | .execute c, s => s.execute c
  | .runWorkers _ workers, s => s.work 0 workers
  | .post p, s => s.send p
  | .pause _, s => ((), s)
  | .log _, s => ((), s)

/-- Runs a program on a machine. -/
def perform {α : Type} (s : Sandbox) (p : HostProgram α) : α × Sandbox :=
  let played := p.play answer s
  (played.result, played.state)

end Sandbox

end CassetteGate
