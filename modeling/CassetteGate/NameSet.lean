/-!
# `NameSet` — finite sets of names in code point order

Test names and service names are kept in sets that are listed in ascending order. The order and
the absence of repetitions are part of the type, so two sets with the same members are equal.

## Contents
- **`NameSet`**: a strictly ascending list of strings.
- **`insert`**, **`erase`**, **`ofList`**, **`contains`**, **`size`**, and their members.
- `NameSet.ext`: sets with the same members are equal.
-/

namespace CassetteGate

/-- A finite set of names, listed in ascending order of code points. -/
structure NameSet where
  /-- The members in order. -/
  toList : List String
  /-- Each member comes before all later ones. -/
  ascending : toList.Pairwise (· < ·)
  deriving DecidableEq

namespace NameSet

/-- The names `a`, `b` are comparable: one comes first unless they are equal. -/
theorem lt_or_lt_of_ne {a b : String} (h : a ≠ b) : a < b ∨ b < a := by
  by_cases hab : a < b
  · exact .inl hab
  · by_cases hba : b < a
    · exact .inr hba
    · exact absurd (String.le_antisymm (String.not_lt.1 hba) (String.not_lt.1 hab)) h

instance : Membership String NameSet := ⟨fun s x => x ∈ s.toList⟩

theorem mem_iff {s : NameSet} {x : String} : x ∈ s ↔ x ∈ s.toList := Iff.rfl

instance (x : String) (s : NameSet) : Decidable (x ∈ s) :=
  inferInstanceAs (Decidable (x ∈ s.toList))

instance (s : NameSet) (p : String → Prop) [DecidablePred p] : Decidable (∀ x ∈ s, p x) :=
  inferInstanceAs (Decidable (∀ x ∈ s.toList, p x))

/-- The set without members. -/
def empty : NameSet := ⟨[], .nil⟩

instance : Inhabited NameSet := ⟨empty⟩

instance : EmptyCollection NameSet := ⟨empty⟩

/-- Whether the set has no member. -/
def isEmpty (s : NameSet) : Bool := s.toList.isEmpty

/-- How many members the set has. -/
def size (s : NameSet) : Nat := s.toList.length

/-- Whether `x` is a member. -/
def contains (s : NameSet) (x : String) : Bool := decide (x ∈ s)

/-! ## Insertion and removal -/

/-- Puts `x` in its place in an ascending list that may hold it already. -/
def place (x : String) : List String → List String
  | [] => [x]
  | y :: ys => if x < y then x :: y :: ys else if x = y then y :: ys else y :: place x ys

theorem mem_place {x y : String} {l : List String} : y ∈ place x l ↔ y = x ∨ y ∈ l := by
  induction l with
  | nil => simp [place]
  | cons z zs ih =>
      simp only [place]
      split
      · simp
      · split
        · next h =>
            subst h
            simp
        · simp only [List.mem_cons, ih]
          constructor
          · rintro (h | h | h)
            · exact .inr (.inl h)
            · exact .inl h
            · exact .inr (.inr h)
          · rintro (h | h | h)
            · exact .inr (.inl h)
            · exact .inl h
            · exact .inr (.inr h)

theorem pairwise_place {x : String} {l : List String} (h : l.Pairwise (· < ·)) :
    (place x l).Pairwise (· < ·) := by
  induction l with
  | nil => exact List.pairwise_singleton _ _
  | cons y ys ih =>
      have hy := List.pairwise_cons.1 h
      simp only [place]
      split
      · next hxy =>
          refine List.pairwise_cons.2 ⟨?_, h⟩
          intro z hz
          rcases List.mem_cons.1 hz with rfl | hz
          · exact hxy
          · exact String.lt_trans hxy (hy.1 z hz)
      · split
        · exact h
        · next hlt hne =>
            refine List.pairwise_cons.2 ⟨?_, ih hy.2⟩
            intro z hz
            rcases mem_place.1 hz with rfl | hz
            · exact (lt_or_lt_of_ne hne).resolve_left hlt
            · exact hy.1 z hz

/-- The set with `x` added. -/
def insert (s : NameSet) (x : String) : NameSet := ⟨place x s.toList, pairwise_place s.ascending⟩

/-- The set with `x` removed. -/
def erase (s : NameSet) (x : String) : NameSet :=
  ⟨s.toList.filter (· ≠ x), s.ascending.filter _⟩

/-- The members of `s` that satisfy `p`. -/
def filter (s : NameSet) (p : String → Bool) : NameSet := ⟨s.toList.filter p, s.ascending.filter p⟩

/-- The set with all of `xs` added. -/
def insertAll (s : NameSet) (xs : List String) : NameSet := xs.foldl insert s

/-- The set of the names in a list; order and repetitions are forgotten. -/
def ofList (xs : List String) : NameSet := empty.insertAll xs

/-! ## Members -/

@[simp] theorem notMem_empty (x : String) : x ∉ (empty : NameSet) := by
  simp [mem_iff, empty]

@[simp] theorem mem_insert {s : NameSet} {x y : String} : y ∈ s.insert x ↔ y = x ∨ y ∈ s :=
  mem_place

@[simp] theorem mem_erase {s : NameSet} {x y : String} : y ∈ s.erase x ↔ y ∈ s ∧ y ≠ x := by
  simp [mem_iff, erase]

@[simp] theorem mem_filter {s : NameSet} {p : String → Bool} {y : String} :
    y ∈ s.filter p ↔ y ∈ s ∧ p y = true := by
  simp [mem_iff, filter]

@[simp] theorem mem_insertAll {s : NameSet} {xs : List String} {y : String} :
    y ∈ s.insertAll xs ↔ y ∈ s ∨ y ∈ xs := by
  induction xs generalizing s with
  | nil => simp [insertAll]
  | cons x xs ih =>
      have h : (s.insert x).insertAll xs = s.insertAll (x :: xs) := rfl
      rw [← h, ih, mem_insert]
      simp only [List.mem_cons]
      constructor
      · rintro ((h | h) | h)
        · exact .inr (.inl h)
        · exact .inl h
        · exact .inr (.inr h)
      · rintro (h | h | h)
        · exact .inl (.inr h)
        · exact .inl (.inl h)
        · exact .inr h

@[simp] theorem mem_ofList {xs : List String} {y : String} : y ∈ ofList xs ↔ y ∈ xs := by
  simp [ofList]

@[simp] theorem contains_iff {s : NameSet} {x : String} : s.contains x = true ↔ x ∈ s := by
  simp [contains]

theorem isEmpty_iff {s : NameSet} : s.isEmpty = true ↔ ∀ x, x ∉ s := by
  simp [isEmpty, mem_iff, List.eq_nil_iff_forall_not_mem]

theorem isEmpty_eq_false_iff {s : NameSet} : s.isEmpty = false ↔ ∃ x, x ∈ s := by
  rw [← Bool.not_eq_true, isEmpty_iff, Classical.not_forall_not]

/-! ## Extensionality -/

theorem nodup (s : NameSet) : s.toList.Nodup :=
  s.ascending.imp fun h => fun he => String.lt_irrefl _ (he ▸ h)

/-- The members of disjoint sets, without repetitions. -/
theorem nodup_append {a b : NameSet} (hdisjoint : ∀ x ∈ a, x ∉ b) :
    (a.toList ++ b.toList).Nodup := by
  refine List.nodup_append.2 ⟨a.nodup, b.nodup, ?_⟩
  intro x hx y hy hxy
  rw [← hxy] at hy
  exact hdisjoint x hx hy

/-- Sets with the same members are equal. -/
@[ext] theorem ext {s t : NameSet} (h : ∀ x, x ∈ s ↔ x ∈ t) : s = t := by
  have hperm : s.toList.Perm t.toList :=
    (List.perm_ext_iff_of_nodup s.nodup t.nodup).2 h
  have hle : ∀ a b, a ∈ s.toList → b ∈ t.toList → a < b → b < a → a = b :=
    fun a b _ _ hab hba => absurd (String.lt_trans hab hba) (String.lt_irrefl a)
  have := hperm.eq_of_pairwise hle s.ascending t.ascending
  cases s
  cases t
  simpa using this

/-- Listing a set and collecting the list again changes nothing. -/
@[simp] theorem ofList_toList (s : NameSet) : ofList s.toList = s := by
  ext x
  exact mem_ofList

end NameSet

end CassetteGate
