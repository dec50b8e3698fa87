import CassetteGate.Json.Basic
import CassetteGate.NameSet
import CassetteGate.Variables

/-!
# `Json.Codec` — values with a JSON form

Each type that is stored or exchanged has one JSON form to write and a strict way to read it back.

* An integer type takes integers of its range only.
* An optional value is `null` when absent, and an optional member may be left out.
* A record is an object with a member per field, unknown members being ignored, or the array of
  its fields in order.
* A choice is the string of its tag or an object whose only member is the tag. Fields behind a tag
  are always those of an object.

## Contents
- **`JsonForm`**: the class, with `toJson` and `ofJson?`.
- Instances for truth values, strings, fixed-width integers, lists, options, name sets, variables.
- **`record?`**, **`field`**, **`optionalField`**, **`fieldOr`** for records.
- **`choice?`**, **`bareTag?`**, **`tagged?`** for choices.
-/

namespace CassetteGate

/-- A type with a JSON form. -/
class JsonForm (α : Type) where
  /-- The JSON form of a value. -/
  toJson : α → Json
  /-- The value that a JSON form denotes, if it denotes one. -/
  ofJson? : Json → Option α

export JsonForm (toJson ofJson?)

namespace Json

/-! ## Plain values -/

instance : JsonForm Bool where
  toJson := .bool
  ofJson?
    | .bool b => some b
    | _ => none

instance : JsonForm String where
  toJson := .str
  ofJson?
    | .str s => some s
    | _ => none

/-- The number of an integer value that lies from `0` to `bound - 1`. -/
def natBelow? (bound : Nat) : Json → Option Nat
  | .int (.ofNat n) => if n < bound then some n else none
  | _ => none

instance : JsonForm UInt16 where
  toJson n := .int n.toNat
  ofJson? j := (natBelow? UInt16.size j).map UInt16.ofNat

instance : JsonForm UInt32 where
  toJson n := .int n.toNat
  ofJson? j := (natBelow? UInt32.size j).map UInt32.ofNat

instance : JsonForm UInt64 where
  toJson n := .int n.toNat
  ofJson? j := (natBelow? UInt64.size j).map UInt64.ofNat

instance : JsonForm Int32 where
  toJson n := .int n.toInt
  ofJson?
    | .int n =>
        if Int32.minValue.toInt ≤ n ∧ n ≤ Int32.maxValue.toInt then some (Int32.ofInt n) else none
    | _ => none

/-! ## Containers -/

instance {α : Type} [JsonForm α] : JsonForm (List α) where
  toJson xs := .arr (xs.map toJson)
  ofJson?
    | .arr items => items.mapM ofJson?
    | _ => none

instance {α : Type} [JsonForm α] : JsonForm (Option α) where
  toJson
    | some a => toJson a
    | none => .null
  ofJson?
    | .null => some none
    | j => (ofJson? j).map some

instance : JsonForm NameSet where
  toJson s := toJson s.toList
  ofJson? j := (ofJson? j : Option (List String)).map NameSet.ofList

instance : JsonForm Variables where
  toJson v := .obj (v.toList.map fun b => (b.1, .str b.2))
  ofJson?
    | .obj members =>
        (members.mapM fun m => (ofJson? m.2 : Option String).map fun s => (m.1, s)).map
          Variables.ofList
    | _ => none

/-! ## Records -/

/-- The fields of a record by name: the members of an object, or the items of an array that has
    one item per field. -/
def record? (names : List String) : Json → Option (List (String × Json))
  | .obj members => some members
  | .arr items => if items.length = names.length then some (names.zip items) else none
  | _ => none

/-- A field that must be there. -/
def field {α : Type} [JsonForm α] (fields : List (String × Json)) (name : String) : Option α :=
  (fields.lookup name).bind ofJson?

/-- A field that may be left out in favour of a default. If it is there, it must have a value. -/
def fieldOr {α : Type} [JsonForm α] (fields : List (String × Json)) (name : String) (default : α) :
    Option α :=
  match fields.lookup name with
  | some j => ofJson? j
  | none => some default

/-- A field that may be left out or be `null`. -/
def optionalField {α : Type} [JsonForm α] (fields : List (String × Json)) (name : String) :
    Option (Option α) :=
  fieldOr fields name none

/-! ## Choices -/

/-- The tag of a choice, and what stands behind the tag. -/
def choice? : Json → Option (String × Option Json)
  | .str tag => some (tag, none)
  | .obj [(tag, payload)] => some (tag, some payload)
  | _ => none

/-- The fields behind a tag. -/
def tagged? : Json → Option (List (String × Json))
  | .obj members => some members
  | _ => none

/-- The tag of a choice that carries nothing. -/
def bareTag? (j : Json) : Option String :=
  match choice? j with
  | some (tag, none) => some tag
  | some (tag, some .null) => some tag
  | _ => none

end Json

end CassetteGate
