import CassetteGate.Host.Sandbox
import CassetteGate.Json.Codec

/-!
# `Forms.Machine` — machines described in JSON

A machine is described by its variables, its files and directories, and the rules that its
programs answer by. What a program prints is given as text, or by the hexadecimal digits of its
bytes.

## Contents
- **`Rule.ofJson?`**: a rule.
- **`Sandbox.ofMembers?`**: a machine with a base directory.
-/

namespace CassetteGate

open Json

/-- The bytes of an output: those that hexadecimal digits spell, if there are any, or else those of
    a text. -/
def Rule.printed? (fields : List (String × Json)) (text hex : String) :
    Option (List UInt8) := do
  let plain : String ← fieldOr fields text ""
  let digits : Option String ← optionalField fields hex
  match digits with
  | some digits => Text.Bytes.ofHex? digits
  | none => return Text.Bytes.encode plain

/-- The rule that an object describes. -/
def Rule.ofJson? (j : Json) : Option Rule := do
  let .obj fields := j | none
  let code : Int32 ← fieldOr fields "exit" 0
  let killed ← fieldOr fields "signal" false
  let hangs ← fieldOr fields "hang" false
  return {
    program := ← optionalField fields "program"
    occurring := ← fieldOr fields "match" []
    ending := if killed then .killed else if hangs then .hangs else .exits code
    stdout := ← Rule.printed? fields "stdout" "stdout_hex"
    stderr := ← Rule.printed? fields "stderr" "stderr_hex" }

/-- The rules that are described, none if nothing is said. -/
def Rule.listOf? (fields : List (String × Json)) : Option (List Rule) :=
  match fields.lookup "rules" with
  | none => some []
  | some (.arr items) => items.mapM Rule.ofJson?
  | some _ => none

/-- The machine that is described; its files lie below the base directory, which is the current
    one. -/
def Sandbox.ofMembers? (base : Location) (fields : List (String × Json)) : Option Sandbox := do
  let env ← fieldOr fields "env" Variables.empty
  let files ← fieldOr fields "files" Variables.empty
  let dirs : List String ← fieldOr fields "dirs" []
  let bare := Sandbox.furnished base env (← Rule.listOf? fields)
  let filled := files.toList.foldl (fun s f => s.withFile ⟨f.1⟩ f.2) bare
  return dirs.foldl (fun s dir => s.withDirectory ⟨dir⟩) filled

end CassetteGate
