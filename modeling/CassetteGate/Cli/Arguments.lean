import CassetteGate.Text.Substring

/-!
# `Cli.Arguments` — the grammar of command lines

A command line is read from left to right, and what stops the reading first counts: a request for
help or for the version, or a misuse.

* A switch is given by its long name or by a letter; letters can be put together behind one dash.
* An option takes a value, behind `=` or as the next argument; the latter must not look like a
  switch. Neither switches nor options can be repeated.
* Everything behind `--` is positional. A lone dash is positional too.

## Contents
- **`Stop`**: why reading ends early.
- **`Given`**, **`Grammar`**: what was given to a command, and what can be.
- **`readLead`**: the arguments before the name of a command.
- **`Grammar.read`**: the arguments of a command.
-/

namespace CassetteGate.Cli

/-- Why reading ends early. -/
inductive Stop where
  /-- Help is asked for. -/
  | help
  /-- The version is asked for. -/
  | version
  /-- The command line makes no sense. -/
  | misuse
  deriving DecidableEq, Inhabited

/-- What was given to a command. -/
structure Given where
  /-- The switches that are on, by their long names. -/
  switches : List String
  /-- The options and their values. -/
  options : List (String × String)
  /-- The other arguments. -/
  positionals : List String
  deriving DecidableEq, Inhabited

/-- What can be given to a command. -/
structure Grammar where
  /-- The options, each with a test for its values. -/
  options : List (String × (String → Bool))
  /-- How many other arguments there are. -/
  positionals : Nat

namespace Given

/-- Nothing. -/
def nothing : Given := ⟨[], [], []⟩

/-- With one more switch on. -/
def addSwitch (g : Given) (name : String) : Except Stop Given :=
  if g.switches.contains name then .error .misuse
  else .ok { g with switches := g.switches ++ [name] }

/-- With one more option, if its value passes the test. -/
def addOption (g : Given) (name value : String) (accepts : String → Bool) : Except Stop Given :=
  if (g.options.lookup name).isSome || !accepts value then .error .misuse
  else .ok { g with options := g.options ++ [(name, value)] }

/-- With one more positional argument, if there is room for it. -/
def addPositional (grammar : Grammar) (g : Given) (arg : String) : Except Stop Given :=
  if g.positionals.length < grammar.positionals then
    .ok { g with positionals := g.positionals ++ [arg] }
  else .error .misuse

/-- The value of an option, if it was given. -/
def option? (g : Given) (name : String) : Option String := g.options.lookup name

end Given

/-! ## Single arguments -/

/-- Whether an argument looks like a switch. -/
def looksLikeSwitch (arg : String) : Bool := Text.startsWith arg "-" && arg ≠ "-"

/-- The long name that an argument starts with two dashes, and the value behind `=`. -/
def longName? (arg : String) : Option (String × Option String) :=
  match Text.after? ['-', '-'] arg.toList with
  | none => none
  | some cs =>
      let name := String.ofList (cs.takeWhile (· ≠ '='))
      match cs.dropWhile (· ≠ '=') with
      | _ :: value => some (name, some (String.ofList value))
      | [] => some (name, none)

/-- The switches that every command has. -/
def switches : List String := ["verbose", "json"]

/-- Reads a switch given by its long name; only before the name of a command can the version be
    asked for. -/
def readLong (lead : Bool) (g : Given) (name : String) (value : Option String) :
    Except Stop Given :=
  if value.isSome then .error .misuse
  else if name = "help" then .error .help
  else if lead && name = "version" then .error .version
  else if switches.contains name then g.addSwitch name
  else .error .misuse

/-- Reads switches given by letters. -/
def readLetters (lead : Bool) (g : Given) : List Char → Except Stop Given
  | [] => .ok g
  | c :: cs =>
      if c = 'v' then
        match g.addSwitch "verbose" with
        | .ok g => readLetters lead g cs
        | .error e => .error e
      else if c = 'h' then .error .help
      else if lead && c = 'V' then .error .version
      else .error .misuse

/-! ## Command lines -/

/-- Reads the arguments before the name of a command. Returned are the switches, the name, and the
    arguments behind it. -/
def readLead (g : Given) : List String → Except Stop (Given × String × List String)
  | [] => .error .misuse
  | arg :: rest =>
      if arg = "--" then .error .misuse
      else
        match longName? arg with
        | some (name, value) =>
            match readLong true g name value with
            | .ok g => readLead g rest
            | .error e => .error e
        | none =>
            if looksLikeSwitch arg then
              match readLetters true g (arg.toList.drop 1) with
              | .ok g => readLead g rest
              | .error e => .error e
            else .ok (g, arg, rest)

/-- Reads the arguments of a command. -/
def Grammar.read (grammar : Grammar) (g : Given) : List String → Except Stop Given
  | [] => .ok g
  | arg :: rest =>
      if arg = "--" then rest.foldlM (Given.addPositional grammar) g
      else
        match longName? arg with
        | some (name, value) =>
            match grammar.options.lookup name with
            | none =>
                match readLong false g name value with
                | .ok g => read grammar g rest
                | .error e => .error e
            | some accepts =>
                match value, rest with
                | some value, rest =>
                    match g.addOption name value accepts with
                    | .ok g => read grammar g rest
                    | .error e => .error e
                | none, [] => .error .misuse
                | none, value :: rest =>
                    if looksLikeSwitch value then .error .misuse
                    else
                      match g.addOption name value accepts with
                      | .ok g => read grammar g rest
                      | .error e => .error e
        | none =>
            if looksLikeSwitch arg then
              match readLetters false g (arg.toList.drop 1) with
              | .ok g => read grammar g rest
              | .error e => .error e
            else
              match g.addPositional grammar arg with
              | .ok g => read grammar g rest
              | .error e => .error e

/-- Everything that is given to a command: all its positional arguments must be there. -/
def Grammar.readAll (grammar : Grammar) (args : List String) : Except Stop Given :=
  match grammar.read .nothing args with
  | .ok g => if g.positionals.length = grammar.positionals then .ok g else .error .misuse
  | .error e => .error e

end CassetteGate.Cli
