import CassetteGate.Json.Codec
import CassetteGate.Proofs.Json.Written

/-!
# `Proofs.Json.Lawful` — forms that are read back

A form is lawful if it is read back as the value that it was made from, and if the writer has a text
for it. Lawful forms are built from lawful forms, with one instance per kind of container, so that a
record's form is lawful as soon as those of its fields are. An absent value is written as `null`,
which is why no present value may be written so.

## Contents
- **`LawfulForm`**, **`ValuedForm`**: forms that are read back, forms that are never `null`.
- Instances for plain values, lists, options, name sets and variables.
- **`field_cons_self`**, **`field_cons_of_ne`** and their likes: fields of records.
- **`ReadsOnly`**, **`LawfulRecord`**: forms of which only some members count.
- **`RoundTrip`**, **`RecordRoundTrip`**: what a lawful form gives whoever stores values.
-/

namespace CassetteGate.Json

/-! ## Lawful forms -/

/-- Forms that lose nothing, and that have a text. -/
class LawfulForm (α : Type) [JsonForm α] where
  /-- How many brackets stand around one another in a form. -/
  levels : Nat
  /-- The form of a value is read back as that value. -/
  readBack (a : α) : ofJson? (toJson a) = some a
  /-- The form of a value has a text. -/
  regular (a : α) : Regular levels (toJson a)

/-- Forms that cannot be taken for an absent value. -/
class ValuedForm (α : Type) [JsonForm α] : Prop where
  /-- No form is `null`. -/
  ne_null (a : α) : toJson a ≠ .null

export LawfulForm (levels)

attribute [simp] LawfulForm.readBack

section

variable {α : Type} [JsonForm α] [LawfulForm α]

theorem LawfulForm.regular_of_le {n : Nat} (h : levels α ≤ n) (a : α) : Regular n (toJson a) :=
  (LawfulForm.regular a).mono h

/-- The text of a form is read back, too. -/
theorem LawfulForm.parse?_render (h : levels α ≤ maxDepth) (a : α) :
    parse? (toJson a).render = some (toJson a) :=
  Json.parse?_render (LawfulForm.regular_of_le h a)

end

/-! ## Plain values -/

instance : LawfulForm Bool where
  levels := 0
  readBack _ := rfl
  regular b := .bool b

instance : LawfulForm String where
  levels := 0
  readBack _ := rfl
  regular s := .str s

instance : ValuedForm String where
  ne_null _ := nofun

theorem map_natBelow?_natCast {α : Type} {n bound : Nat} {ofNat : Nat → α} {a : α}
    (hn : n < bound) (ha : ofNat n = a) : (natBelow? bound (.int n)).map ofNat = some a := by
  have hread : natBelow? bound (.int n) = some n := if_pos hn
  rw [hread, Option.map_some, ha]

/-- Double precision can hold every integer of 64 bits. -/
theorem regular_natCast {n : Nat} (h : n < UInt64.size) : Regular 0 (.int n) := by
  refine .int ?_
  rw [Int.natAbs_natCast]
  exact Nat.lt_trans h (by decide)

instance : LawfulForm UInt16 where
  levels := 0
  readBack n := map_natBelow?_natCast n.toNat_lt UInt16.ofNat_toNat
  regular n := regular_natCast (Nat.lt_trans n.toNat_lt (by decide))

instance : LawfulForm UInt32 where
  levels := 0
  readBack n := map_natBelow?_natCast n.toNat_lt UInt32.ofNat_toNat
  regular n := regular_natCast (Nat.lt_trans n.toNat_lt (by decide))

instance : LawfulForm UInt64 where
  levels := 0
  readBack n := map_natBelow?_natCast n.toNat_lt UInt64.ofNat_toNat
  regular n := regular_natCast n.toNat_lt

/-! ## Containers -/

/-- A list is read back item by item. -/
theorem mapM_map_of_inverse {α β : Type} {write : α → β} {read : β → Option α}
    (h : ∀ a, read (write a) = some a) (xs : List α) : (xs.map write).mapM read = some xs := by
  induction xs with
  | nil => rfl
  | cons x xs ih =>
      rw [List.map_cons, List.mapM_cons, h, ih]
      rfl

instance {α : Type} [JsonForm α] [LawfulForm α] : LawfulForm (List α) where
  levels := levels α + 1
  readBack := mapM_map_of_inverse LawfulForm.readBack
  regular _ := .arr (List.forall_mem_map.2 fun x _ => LawfulForm.regular x)

/-- What is not `null` is the form of a present value. -/
theorem ofJson?_of_ne_null {α : Type} [JsonForm α] {j : Json} (h : j ≠ .null) :
    (ofJson? j : Option (Option α)) = (ofJson? j).map some := by
  cases j with
  | null => exact absurd rfl h
  | bool | int | real | str | arr | obj => rfl

instance {α : Type} [JsonForm α] [LawfulForm α] [ValuedForm α] : LawfulForm (Option α) where
  levels := levels α
  readBack
    | none => rfl
    | some a => by
        show ofJson? (toJson a) = _
        rw [ofJson?_of_ne_null (ValuedForm.ne_null a), LawfulForm.readBack, Option.map_some]
  regular
    | none => .null
    | some a => LawfulForm.regular a

/-- The form of any list of names is read as the set of these names. -/
theorem ofJson?_nameSet (names : List String) :
    (ofJson? (toJson names) : Option NameSet) = some (.ofList names) := by
  show (ofJson? (toJson names) : Option (List String)).map NameSet.ofList = _
  rw [LawfulForm.readBack, Option.map_some]

instance : LawfulForm NameSet where
  levels := 1
  readBack s := by
    show (ofJson? (toJson s.toList) : Option NameSet) = some s
    rw [ofJson?_nameSet, NameSet.ofList_toList]
  regular s := LawfulForm.regular s.toList

instance : LawfulForm Variables where
  levels := 1
  readBack v := by
    have hread : (v.toList.map fun b => (b.1, Json.str b.2)).mapM
        (fun m => (ofJson? m.2 : Option String).map fun s => (m.1, s)) = some v.toList := by
      refine mapM_map_of_inverse ?_ v.toList
      intro b
      rfl
    show Option.map Variables.ofList (List.mapM _ _) = some v
    rw [hread, Option.map_some, Variables.ofList_toList]
  regular v := by
    refine .obj ?_ (List.forall_mem_map.2 fun b _ => .str b.2)
    rw [List.map_map]
    exact List.pairwise_map.2 v.names_ne

/-! ## Records -/

section

variable {α : Type} [JsonForm α] {name other : String} {ms ms' : List (String × Json)}

@[simp] theorem record?_obj (names : List String) (ms : List (String × Json)) :
    record? names (.obj ms) = some ms := rfl

theorem field_eq (ms : List (String × Json)) (name : String) :
    (field ms name : Option α) = (ms.lookup name).bind ofJson? := rfl

/-- An optional field that is left out counts as `null`. -/
theorem optionalField_eq (ms : List (String × Json)) (name : String) :
    (optionalField ms name : Option (Option α)) = ofJson? ((ms.lookup name).getD .null) := by
  unfold optionalField fieldOr
  cases ms.lookup name <;> rfl

@[simp] theorem field_cons_self [LawfulForm α] (a : α) :
    field ((name, toJson a) :: ms) name = some a := by
  rw [field_eq, List.lookup_cons_self, Option.bind_some, LawfulForm.readBack]

@[simp] theorem optionalField_cons_self [LawfulForm α] [ValuedForm α] (a : Option α) :
    optionalField ((name, toJson a) :: ms) name = some a := by
  rw [optionalField_eq, List.lookup_cons_self, Option.getD_some, LawfulForm.readBack]

theorem lookup_cons_of_ne {j : Json} (h : name ≠ other) :
    ((other, j) :: ms).lookup name = ms.lookup name := by
  rw [List.lookup_cons, beq_false_of_ne h]

@[simp] theorem field_cons_of_ne {j : Json} (h : name ≠ other) :
    (field ((other, j) :: ms) name : Option α) = field ms name := by
  rw [field_eq, field_eq, lookup_cons_of_ne h]

@[simp] theorem optionalField_cons_of_ne {j : Json} (h : name ≠ other) :
    (optionalField ((other, j) :: ms) name : Option (Option α)) = optionalField ms name := by
  rw [optionalField_eq, optionalField_eq, lookup_cons_of_ne h]

end

/-- Nothing but the required and the optional members of an object counts: neither their order, nor
    other members, nor whether an optional one is left out or `null`. -/
def ReadsOnly {α : Type} (read : Json → Option α) (required optional : List String) : Prop :=
  ∀ ms ms' : List (String × Json), (∀ name ∈ required, ms.lookup name = ms'.lookup name) →
    (∀ name ∈ optional, (ms.lookup name).getD .null = (ms'.lookup name).getD .null) →
    read (.obj ms) = read (.obj ms')

/-- Lawful forms that are objects with the given members. -/
class LawfulRecord (α : Type) [JsonForm α] extends LawfulForm α, ValuedForm α where
  /-- The members that must be there. -/
  required : List String
  /-- The members that may be left out. -/
  optional : List String
  /-- No other members count. -/
  readsOnly : ReadsOnly (ofJson? : Json → Option α) required optional

/-! ## Round trips -/

/-- What holds of all forms that are stored: a value is read back from its form, and from the text of
    its form. Whatever a value was read from, its form stands for the same value. -/
structure RoundTrip (α : Type) [JsonForm α] : Prop where
  readBack : ∀ a : α, ofJson? (toJson a) = some a
  canonical : ∀ (j : Json) (a : α), ofJson? j = some a → ofJson? (toJson a) = some a
  text : ∀ a : α, (parse? (toJson a).render).bind ofJson? = some a

/-- What holds of forms with members, besides: every other way to write them comes to the same. -/
structure RecordRoundTrip (α : Type) [JsonForm α] (required optional : List String) : Prop
    extends RoundTrip α where
  readsOnly : ReadsOnly (ofJson? : Json → Option α) required optional

theorem LawfulForm.roundTrip {α : Type} [JsonForm α] [LawfulForm α] (h : levels α ≤ maxDepth) :
    RoundTrip α where
  readBack := LawfulForm.readBack
  canonical _ a _ := LawfulForm.readBack a
  text a := by rw [LawfulForm.parse?_render h, Option.bind_some, LawfulForm.readBack]

theorem LawfulRecord.roundTrip {α : Type} [JsonForm α] [LawfulRecord α] (h : levels α ≤ maxDepth) :
    RecordRoundTrip α (LawfulRecord.required α) (LawfulRecord.optional α) where
  toRoundTrip := LawfulForm.roundTrip h
  readsOnly := LawfulRecord.readsOnly

end CassetteGate.Json
