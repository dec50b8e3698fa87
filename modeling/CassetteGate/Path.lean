import CassetteGate.Text.Split
import CassetteGate.Text.Substring

/-!
# `Path` — file names as text

A path is kept as it was written: nothing is normalised and `.` and `..` stay. Joining is the only
operation that most of the library needs.

## Contents
- **`Path`** and **`Path.join`**, also written `base / part`.
- `Path.join_absolute`, `Path.join_relative`: the two cases of joining.
- **`Path.parent?`**: the directory that a path lies in.
- **`Path.names`**, **`Path.parts`**: the names that lead to a file, with and without dots.
-/

namespace CassetteGate

/-- A path as written. -/
structure Path where
  /-- The text. -/
  text : String
  deriving DecidableEq, Inhabited

namespace Path

/-- Whether the path starts at the root. -/
def isAbsolute (p : Path) : Bool := Text.startsWith p.text "/"

/-- The path of `part` as seen from `base`. An absolute part stands for itself; otherwise a `/` is
    put between the two unless `base` is empty or ends with one. -/
def join (base : Path) (part : String) : Path :=
  if Text.startsWith part "/" then ⟨part⟩
  else if base.text.isEmpty || Text.endsWith base.text "/" then ⟨base.text ++ part⟩
  else ⟨base.text ++ "/" ++ part⟩

instance : HDiv Path String Path := ⟨join⟩

theorem div_eq_join (base : Path) (part : String) : base / part = base.join part := rfl

/-- An absolute part replaces the base. -/
theorem join_absolute {base : Path} {part : String} (h : Text.startsWith part "/" = true) :
    base.join part = ⟨part⟩ := by
  simp [join, h]

/-- A relative part ends the joined path. -/
theorem join_relative {base : Path} {part : String} (h : Text.startsWith part "/" = false) :
    ∃ lead, base.join part = ⟨lead ++ part⟩ := by
  simp only [join, h, Bool.false_eq_true, if_false]
  split
  · exact ⟨base.text, rfl⟩
  · exact ⟨base.text ++ "/", rfl⟩

/-! ## Taking paths apart -/

/-- A path, its last character first, without slashes and dots at its end that lead nowhere. -/
def dropTail : List Char → List Char
  | '/' :: cs => dropTail cs
  | '.' :: '/' :: cs => dropTail cs
  | cs => cs

/-- Characters of a path without slashes and dots at their end that lead nowhere. -/
def dropEnd (cs : List Char) : List Char := (dropTail cs.reverse).reverse

/-- The directory that a path lies in. The root and the empty path lie in none. -/
def parent? (p : Path) : Option Path :=
  let cs := dropEnd p.text.toList
  let dir := (cs.reverse.dropWhile (· ≠ '/')).reverse
  if cs.isEmpty then none
  else if !dir.isEmpty && (dropEnd dir).isEmpty then some ⟨"/"⟩
  else some ⟨String.ofList (dropEnd dir)⟩

example : parent? ⟨"/w/./sa_key.json"⟩ = some ⟨"/w"⟩ := by decide +kernel

example : parent? ⟨"sa_key.json"⟩ = some ⟨""⟩ := by decide +kernel

example : parent? ⟨"./sa_key.json"⟩ = some ⟨"."⟩ := by decide +kernel

example : parent? ⟨"/./sa_key.json"⟩ = some ⟨"/"⟩ := by decide +kernel

/-- The names that lead to a file, as they are followed; empty ones lead nowhere. -/
def names (p : Path) : List String :=
  ((Text.split (· == '/') p.text.toList).filter fun name => !name.isEmpty).map String.ofList

/-- The names that lead to a file but for those that say "here". -/
def parts (p : Path) : List String := p.names.filter (· ≠ ".")

/-- Whether a path ends as only that of a directory can. -/
def endsInSlash (p : Path) : Bool := Text.endsWith p.text "/"

end Path

end CassetteGate
