/-!
# `Json.Basic` — JSON values

A number is an integer or the text of some other number: nothing here computes with fractions, so
`1.0` and `1e3` are kept as written and are never taken for integers.

## Contents
- **`Json`**: the values.
- **`member?`**: the value of an object's member.
- **`putMember`**: a member list with one name bound, as a reader builds it.
- **`mapText`**: every string of a value, names included, changed by a function.
-/

namespace CassetteGate

/-- A JSON value. -/
inductive Json where
  /-- The value `null`. -/
  | null
  /-- A truth value. -/
  | bool (b : Bool)
  /-- A number written without fraction and exponent. -/
  | int (n : Int)
  /-- Any other number, by its text. -/
  | real (text : String)
  /-- A string. -/
  | str (s : String)
  /-- An array. -/
  | arr (items : List Json)
  /-- An object, its members in order. -/
  | obj (members : List (String × Json))
  deriving Inhabited

namespace Json

/-- The member of an object that has the given name. -/
def member? (name : String) : Json → Option Json
  | .obj members => members.lookup name
  | _ => none

/-- Binds `name` in a member list; an earlier binding gives way. -/
def putMember (name : String) (value : Json) : List (String × Json) → List (String × Json)
  | [] => [(name, value)]
  | m :: ms => if m.1 = name then (name, value) :: ms else m :: putMember name value ms

mutual

/-- The value with `f` applied to every string and every member name. -/
def mapText (f : String → String) : Json → Json
  | .str s => .str (f s)
  | .arr items => .arr (mapTextItems f items)
  | .obj members => .obj (mapTextMembers f members)
  | j => j

/-- `mapText` on the items of an array. -/
def mapTextItems (f : String → String) : List Json → List Json
  | [] => []
  | j :: js => mapText f j :: mapTextItems f js

/-- `mapText` on the members of an object. -/
def mapTextMembers (f : String → String) : List (String × Json) → List (String × Json)
  | [] => []
  | (name, j) :: ms => (f name, mapText f j) :: mapTextMembers f ms

end

end Json

end CassetteGate
