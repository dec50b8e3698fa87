import CassetteGate.Host.OsError
import CassetteGate.Path

/-!
# `Host.FileSystem` — files held in memory

A file system maps locations, the names that lead there from the root, to what is there: a
directory, a file with its text, or a program. A path is followed name by name from the root or
from a current directory; every name but the last must be that of a directory, also where a dot
follows. What is refused changes nothing, but for trees that are made or removed step by step: the
steps before the refusal stay.

## Contents
- **`Location`**, **`Entry`**, **`FileSystem`**.
- **`FileSystem.locate`**: the location that a path leads to.
- **`createDirectories`**, **`removeTree`**, **`writeFile`**, **`appendFile`**, **`removeFile`**,
  **`readFile`**, **`isDirectory`**: what can be done with files.
- **`FileSystem.listing`**: all that lies below a location.
-/

namespace CassetteGate

/-- Where something is: the names that lead there from the root. -/
abbrev Location := List String

/-- What is at a location. -/
inductive Entry where
  /-- A directory. -/
  | directory
  /-- A file with a text. -/
  | file (text : String)
  /-- A program that can be started. -/
  | program (name : String)
  deriving DecidableEq, Inhabited

/-- What is where. The root is always a directory. -/
structure FileSystem where
  /-- What is at each location but the root. -/
  entries : List (Location × Entry)
  deriving DecidableEq, Inhabited

namespace FileSystem

/-- The file system without anything but the root. -/
def empty : FileSystem := ⟨[]⟩

/-- What is at a location. -/
def at? (fs : FileSystem) (l : Location) : Option Entry :=
  if l.isEmpty then some .directory else fs.entries.lookup l

/-- The file system with something put at a location, in place of what was there. -/
def put (fs : FileSystem) (l : Location) (e : Entry) : FileSystem :=
  ⟨(l, e) :: fs.entries.filter fun m => m.1 ≠ l⟩

/-- Whether a location is `top` or lies below it. -/
def isWithin (top l : Location) : Bool := top.isPrefixOf l

/-- The file system without a location and all below it. -/
def clear (fs : FileSystem) (top : Location) : FileSystem :=
  ⟨fs.entries.filter fun m => !isWithin top m.1⟩

/-- The file system without anything below a location. -/
def clearBelow (fs : FileSystem) (top : Location) : FileSystem :=
  ⟨fs.entries.filter fun m => !isWithin top m.1 || m.1 = top⟩

/-- A change that is made as a whole or not at all. -/
def change (fs : FileSystem) : Except OsError FileSystem → Except OsError Unit × FileSystem
  | .ok changed => (.ok (), changed)
  | .error e => (.error e, fs)

/-! ## Following paths -/

/-- How many bytes a name may have. -/
def maxNameBytes : Nat := 255

/-- How many bytes a path may have. -/
def maxPathBytes : Nat := 4095

/-- Where a name leads to from a directory. -/
def step (here : Location) (name : String) : Except OsError Location :=
  if name = "." then .ok here
  else if name = ".." then .ok here.dropLast
  else if name.utf8ByteSize > maxNameBytes then .error .nameTooLong
  else .ok (here ++ [name])

/-- Where names lead to from a directory. Nothing has to be where the last one leads. -/
def follow (fs : FileSystem) (here : Location) : List String → Except OsError Location
  | [] => .ok here
  | name :: names =>
      match step here name with
      | .error e => .error e
      | .ok next =>
          if names.isEmpty then .ok next
          else
            match fs.at? next with
            | some .directory => follow fs next names
            | some _ => .error .notADirectory
            | none => .error .notFound

/-- Where a path is followed from; `cwd` is the current directory. -/
def origin (cwd : Location) (p : Path) : Location := if p.isAbsolute then [] else cwd

/-- What stands against a path whatever there is. -/
def pathFault? (p : Path) : Option OsError :=
  if p.text.toList.contains '\x00' then some .nulInPath
  else if p.text.isEmpty then some .notFound
  else if p.text.utf8ByteSize > maxPathBytes then some .nameTooLong
  else none

/-- Where a path leads to; `cwd` is the current directory. -/
def locate (fs : FileSystem) (cwd : Location) (p : Path) : Except OsError Location :=
  match pathFault? p with
  | some e => .error e
  | none => fs.follow (origin cwd p) p.names

/-- What is where a path leads to, which must be a directory if a slash follows. -/
def find (fs : FileSystem) (cwd : Location) (p : Path) :
    Except OsError (Location × Option Entry) := do
  let l ← fs.locate cwd p
  match fs.at? l with
  | none => return (l, none)
  | some .directory => return (l, some .directory)
  | some e => if p.endsInSlash then throw .notADirectory else return (l, some e)

/-- Whether a path leads to a directory. -/
def isDirectory (fs : FileSystem) (cwd : Location) (p : Path) : Bool :=
  match fs.find cwd p with
  | .ok (_, some .directory) => true
  | _ => false

/-! ## Directories -/

/-- Makes a directory where names lead to from `top`. -/
def makeDirectory (fs : FileSystem) (top : Location) (names : List String) :
    Except OsError FileSystem := do
  let l ← fs.follow top names
  match fs.at? l with
  | some _ => throw .alreadyExists
  | none => return fs.put l .directory

/-- Whether names lead to a directory from `top`. -/
def leadsToDirectory (fs : FileSystem) (top : Location) (names : List String) : Bool :=
  match fs.follow top names with
  | .ok l => fs.at? l == some .directory
  | .error _ => false

/-- Makes a directory where names lead to from `top`, unless there is one. -/
def ensureDirectory (fs : FileSystem) (top : Location) (names : List String) :
    Except OsError Unit × FileSystem :=
  match fs.makeDirectory top names with
  | .ok changed => (.ok (), changed)
  | .error e => (if fs.leadsToDirectory top names then .ok () else .error e, fs)

/-- Makes the directory that names lead to from `top`. If there is nothing to make it in, the
    directory above it, whose names are given with the last one first, is made before. -/
def makeAll (fs : FileSystem) (top : Location) (names : List String) :
    List String → Except OsError Unit × FileSystem
  | [] => fs.ensureDirectory top names
  | name :: above =>
      match fs.ensureDirectory top names with
      | (.error .notFound, _) =>
          match makeAll fs top (name :: above).reverse above with
          | (.ok (), made) => made.ensureDirectory top names
          | (.error e, made) => (.error e, made)
      | done => done

/-- Makes a directory and those above it, as far as they are missing. The empty path needs none. -/
def createDirectories (fs : FileSystem) (cwd : Location) (p : Path) :
    Except OsError Unit × FileSystem :=
  if p.text.isEmpty then (.ok (), fs)
  else
    match pathFault? p with
    | some e => (.error e, fs)
    | none => fs.makeAll (origin cwd p) p.names (p.parts.reverse.drop 1)

/-- Removes all that is in a directory and then the directory itself, as the path leads to it by
    now. A directory cannot be removed from its own point of view. -/
def removeTree (fs : FileSystem) (cwd : Location) (p : Path) : Except OsError Unit × FileSystem :=
  match fs.find cwd p with
  | .error e => (.error e, fs)
  | .ok (_, none) => (.error .notFound, fs)
  | .ok (l, some .directory) =>
      let emptied := fs.clearBelow l
      emptied.change do
        let l ← emptied.locate cwd p
        if p.names.getLast? = some "." then throw .invalidArgument
        return emptied.clear l
  | .ok (_, some _) => (.error .notADirectory, fs)

/-! ## Files -/

/-- Changes the text of a file; the text of a new file is empty before. -/
def edit (fs : FileSystem) (cwd : Location) (p : Path) (f : String → String) :
    Except OsError FileSystem := do
  let l ← fs.locate cwd p
  if p.endsInSlash then throw .isADirectory
  match fs.at? l with
  | some .directory => throw .isADirectory
  | some (.file text) => return fs.put l (.file (f text))
  | _ => return fs.put l (.file (f ""))

/-- Makes a file with the given text, in place of what it held. -/
def writeFile (fs : FileSystem) (cwd : Location) (p : Path) (text : String) :
    Except OsError Unit × FileSystem :=
  fs.change (fs.edit cwd p fun _ => text)

/-- Adds text to a file, which is made first if there is none. -/
def appendFile (fs : FileSystem) (cwd : Location) (p : Path) (text : String) :
    Except OsError Unit × FileSystem :=
  fs.change (fs.edit cwd p fun old => old ++ text)

/-- Removes a file. -/
def removeFile (fs : FileSystem) (cwd : Location) (p : Path) : Except OsError Unit × FileSystem :=
  fs.change do
    match ← fs.find cwd p with
    | (_, some .directory) => throw .isADirectory
    | (l, some _) => return fs.clear l
    | (_, none) => throw .notFound

/-- The text of a file. -/
def readFile (fs : FileSystem) (cwd : Location) (p : Path) : Except OsError String := do
  match ← fs.find cwd p with
  | (_, some .directory) => throw .isADirectory
  | (_, some (.file text)) => return text
  | (_, some (.program _)) => return ""
  | (_, none) => throw .notFound

/-! ## Overviews -/

/-- The path of a location. -/
def pathOf (l : Location) : String := "/" ++ "/".intercalate l

/-- All that lies below a location, by its path from there, in order of the paths. -/
def listing (fs : FileSystem) (top : Location) : List (String × Entry) :=
  let below := fs.entries.filterMap fun m =>
    if isWithin top m.1 && m.1 ≠ top then some ("/".intercalate (m.1.drop top.length), m.2)
    else none
  below.mergeSort fun a b => a.1 ≤ b.1

end FileSystem

end CassetteGate
