import CassetteGate.Text.Substring

/-!
# `Variables` — environment variables

The variables that a process is started with, as a finite map from names to values that is listed
in ascending order of the names. They are handed over as one text per variable, so a process need
not see them under the names that they were given if an equals sign stands in a name.

## Contents
- **`Variables`**: bindings with strictly ascending names.
- **`get?`**, **`set`**, **`setAll`**, **`ofList`**, **`mapValues`**.
- `Variables.get?_set`, `Variables.get?_setAll`: the later binding of a name wins.
- `Variables.ext`: variables that bind the same names to the same values are equal.
- **`seen?`**, **`view`**, **`reread`**: what a process makes of its variables.
- `Variables.ofEntry?_entry`: a plain name is read back as it is.
-/

namespace CassetteGate

/-- A finite map from variable names to values, in ascending order of the names. -/
structure Variables where
  /-- The bindings in order. -/
  toList : List (String × String)
  /-- Each name comes before all later ones. -/
  ascending : toList.Pairwise (fun a b => a.1 < b.1)
  deriving DecidableEq

namespace Variables

/-- No variables. -/
def empty : Variables := ⟨[], .nil⟩

instance : Inhabited Variables := ⟨empty⟩

/-- The value that `name` is bound to. -/
def get? (v : Variables) (name : String) : Option String := v.toList.lookup name

/-- Whether `name` is bound. -/
def has (v : Variables) (name : String) : Bool := (v.get? name).isSome

/-- The bound names in order. -/
def names (v : Variables) : List String := v.toList.map Prod.fst

/-- Puts a binding in its place in an ascending list, over one of the same name. -/
def place (name value : String) : List (String × String) → List (String × String)
  | [] => [(name, value)]
  | b :: bs =>
      if name < b.1 then (name, value) :: b :: bs
      else if name = b.1 then (name, value) :: bs
      else b :: place name value bs

theorem mem_place {name value : String} {b : String × String} {l : List (String × String)}
    (h : b ∈ place name value l) : b = (name, value) ∨ b ∈ l := by
  induction l with
  | nil => exact .inl (by simpa [place] using h)
  | cons c cs ih =>
      simp only [place] at h
      split at h
      · rcases List.mem_cons.1 h with h | h
        · exact .inl h
        · exact .inr h
      · split at h
        · rcases List.mem_cons.1 h with h | h
          · exact .inl h
          · exact .inr (List.mem_cons_of_mem _ h)
        · rcases List.mem_cons.1 h with h | h
          · exact .inr (h ▸ List.mem_cons_self)
          · rcases ih h with h | h
            · exact .inl h
            · exact .inr (List.mem_cons_of_mem _ h)

theorem pairwise_place {name value : String} {l : List (String × String)}
    (h : l.Pairwise (fun a b => a.1 < b.1)) :
    (place name value l).Pairwise (fun a b => a.1 < b.1) := by
  induction l with
  | nil => exact List.pairwise_singleton _ _
  | cons c cs ih =>
      have hc := List.pairwise_cons.1 h
      simp only [place]
      split
      · next hlt =>
          refine List.pairwise_cons.2 ⟨?_, h⟩
          intro b hb
          rcases List.mem_cons.1 hb with rfl | hb
          · exact hlt
          · exact String.lt_trans hlt (hc.1 b hb)
      · split
        · next heq =>
            refine List.pairwise_cons.2 ⟨?_, hc.2⟩
            intro b hb
            exact heq ▸ hc.1 b hb
        · next hlt hne =>
            refine List.pairwise_cons.2 ⟨?_, ih hc.2⟩
            intro b hb
            rcases mem_place hb with rfl | hb
            · by_cases hgt : c.1 < name
              · exact hgt
              · exact absurd
                  (String.le_antisymm (String.not_lt.1 hgt) (String.not_lt.1 hlt)) hne
            · exact hc.1 b hb

/-- The variables with `name` bound to `value`. -/
def set (v : Variables) (name value : String) : Variables :=
  ⟨place name value v.toList, pairwise_place v.ascending⟩

/-- The variables with all of `bindings` set, the later ones last. -/
def setAll (v : Variables) (bindings : List (String × String)) : Variables :=
  bindings.foldl (fun acc b => acc.set b.1 b.2) v

/-- The variables of a list of bindings; of two with one name the later one counts. -/
def ofList (bindings : List (String × String)) : Variables := empty.setAll bindings

/-- The variables with every value replaced by a function of name and value. -/
def mapValues (v : Variables) (f : String → String → String) : Variables :=
  ⟨v.toList.map fun b => (b.1, f b.1 b.2),
    List.pairwise_map.2 (v.ascending.imp fun h => h)⟩

/-! ## Looking up -/

theorem lookup_cons (other : String) (b : String × String) (bs : List (String × String)) :
    (b :: bs).lookup other = if other = b.1 then some b.2 else bs.lookup other := by
  show (match other == b.1 with
    | true => some b.2
    | false => bs.lookup other) = _
  by_cases h : other = b.1
  · simp [h]
  · simp [h, beq_false_of_ne h]

theorem lookup_place {name value other : String} {l : List (String × String)} :
    (place name value l).lookup other = if other = name then some value else l.lookup other := by
  induction l with
  | nil => simp [place]
  | cons c cs ih =>
      simp only [place]
      split
      · rw [lookup_cons]
      · split
        · next heq =>
            rw [lookup_cons, lookup_cons]
            by_cases h : other = name
            · simp [h]
            · simp [h, heq ▸ h]
        · next hne =>
            rw [lookup_cons, lookup_cons, ih]
            by_cases h : other = c.1
            · have hn : other ≠ name := fun he => hne (he.symm.trans h)
              rw [if_pos h, if_neg hn, if_pos h]
            · rw [if_neg h, if_neg h]

@[simp] theorem get?_empty (other : String) : empty.get? other = none := rfl

/-- Setting a variable changes that variable only. -/
@[simp] theorem get?_set {v : Variables} {name value other : String} :
    (v.set name value).get? other = if other = name then some value else v.get? other :=
  lookup_place

theorem setAll_cons (v : Variables) (b : String × String) (bs : List (String × String)) :
    v.setAll (b :: bs) = (v.set b.1 b.2).setAll bs := rfl

@[simp] theorem setAll_nil (v : Variables) : v.setAll [] = v := rfl

/-- After setting a list of bindings, the last binding of a name counts, and a name that the list
    does not bind keeps its value. -/
theorem get?_setAll {v : Variables} {bindings : List (String × String)} {other : String} :
    (v.setAll bindings).get? other = (bindings.reverse.lookup other).or (v.get? other) := by
  induction bindings generalizing v with
  | nil => simp
  | cons b bs ih =>
      rw [setAll_cons, ih, List.reverse_cons, List.lookup_append, get?_set]
      cases hb : bs.reverse.lookup other with
      | some x => simp
      | none => by_cases h : other = b.1 <;> simp [lookup_cons, h]

@[simp] theorem toList_mapValues (v : Variables) (f : String → String → String) :
    (v.mapValues f).toList = v.toList.map fun b => (b.1, f b.1 b.2) := rfl

@[simp] theorem names_mapValues (v : Variables) (f : String → String → String) :
    (v.mapValues f).names = v.names := by
  unfold names
  rw [toList_mapValues, List.map_map]
  rfl

/-- Replacing values keeps what is bound. -/
@[simp] theorem get?_mapValues (v : Variables) (f : String → String → String) (name : String) :
    (v.mapValues f).get? name = (v.get? name).map (f name) := by
  unfold get?
  rw [toList_mapValues]
  induction v.toList with
  | nil => rfl
  | cons b bs ih =>
      rw [List.map_cons, lookup_cons, lookup_cons]
      by_cases h : name = b.1
      · rw [if_pos h, if_pos h, h, Option.map_some]
      · rw [if_neg h, if_neg h, ih]

/-! ## Extensionality -/

/-- In a list that binds no name twice, looking up a name finds its binding. -/
theorem lookup_eq_some_iff_mem {name value : String} {l : List (String × String)}
    (h : l.Pairwise fun a b => a.1 ≠ b.1) : l.lookup name = some value ↔ (name, value) ∈ l := by
  induction l with
  | nil => simp
  | cons b bs ih =>
      obtain ⟨hb, hbs⟩ := List.pairwise_cons.1 h
      rw [lookup_cons, List.mem_cons]
      by_cases hname : name = b.1
      · have hnone : (name, value) ∉ bs := fun hmem => hb _ hmem hname.symm
        rw [if_pos hname, or_iff_left hnone, Option.some.injEq, Prod.ext_iff]
        exact ⟨fun he => ⟨hname, he.symm⟩, fun he => he.2.symm⟩
      · have hne : (name, value) ≠ b := fun he => hname (congrArg Prod.fst he)
        rw [if_neg hname, or_iff_right hne]
        exact ih hbs

theorem names_ne (v : Variables) : v.toList.Pairwise fun a b => a.1 ≠ b.1 := by
  refine v.ascending.imp fun {a b} hlt he => ?_
  rw [he] at hlt
  exact String.lt_irrefl _ hlt

theorem get?_eq_some_iff {v : Variables} {name value : String} :
    v.get? name = some value ↔ (name, value) ∈ v.toList :=
  lookup_eq_some_iff_mem v.names_ne

/-- Variables that bind the same names to the same values are equal. -/
theorem ext {v w : Variables} (h : ∀ name, v.get? name = w.get? name) : v = w := by
  have hnodup (u : Variables) : u.toList.Nodup :=
    u.names_ne.imp fun {a b} hne he => hne (congrArg Prod.fst he)
  have hmem : ∀ b, b ∈ v.toList ↔ b ∈ w.toList := by
    rintro ⟨name, value⟩
    rw [← get?_eq_some_iff, ← get?_eq_some_iff, h]
  have hperm : v.toList.Perm w.toList := (List.perm_ext_iff_of_nodup (hnodup v) (hnodup w)).2 hmem
  have hle : ∀ a b, a ∈ v.toList → b ∈ w.toList → a.1 < b.1 → b.1 < a.1 → a = b :=
    fun a b _ _ hab hba => absurd (String.lt_trans hab hba) (String.lt_irrefl a.1)
  have := hperm.eq_of_pairwise hle v.ascending w.ascending
  cases v
  cases w
  simpa using this

/-- Listing variables and collecting the list again changes nothing. -/
@[simp] theorem ofList_toList (v : Variables) : ofList v.toList = v := by
  have hback : v.toList.reverse.Pairwise fun a b => a.1 ≠ b.1 :=
    List.pairwise_reverse.2 (v.names_ne.imp Ne.symm)
  refine ext fun name => Option.ext fun value => ?_
  unfold ofList
  rw [get?_setAll, get?_empty, Option.or_none, lookup_eq_some_iff_mem hback, List.mem_reverse,
    get?_eq_some_iff]

/-! ## Entries -/

/-- The text by which a variable is handed to a process. -/
def entry (b : String × String) : List Char := b.1.toList ++ '=' :: b.2.toList

/-- What a process is told when it asks for `name`: what follows the name and an equals sign in the
    first entry that starts so. Nothing goes by the empty name. -/
def seen? (v : Variables) (name : String) : Option String :=
  if name.isEmpty then none
  else (v.toList.findSome? fun b => Text.after? (name.toList ++ ['=']) (entry b)).map String.ofList

/-- What a process is told about each of some names. -/
def view (v : Variables) (names : List String) : Variables :=
  ofList (names.filterMap fun name => (v.seen? name).map fun value => (name, value))

/-- The binding that an entry is read as: its name has a character at least and ends before the
    next equals sign. -/
def ofEntry? : List Char → Option (String × String)
  | [] => none
  | c :: cs =>
      match cs.dropWhile (· ≠ '=') with
      | [] => none
      | _ :: value => some (String.ofList (c :: cs.takeWhile (· ≠ '=')), String.ofList value)

/-- The variables as a process reads all of its entries; of two with one name the later counts. -/
def reread (v : Variables) : Variables := ofList (v.toList.filterMap fun b => ofEntry? (entry b))

/-- A name without equals sign is read back with its value. -/
theorem ofEntry?_entry {name value : String} (h : name.isEmpty = false)
    (plain : '=' ∉ name.toList) : ofEntry? (entry (name, value)) = some (name, value) := by
  cases hn : name.toList with
  | nil => simp_all
  | cons c cs =>
      have hcs : ∀ d ∈ cs, decide (d ≠ '=') = true := by
        intro d hd
        have : d ∈ name.toList := hn ▸ List.mem_cons_of_mem _ hd
        exact decide_eq_true fun he => plain (he ▸ this)
      have hname : String.ofList (c :: cs) = name := by
        rw [← hn, String.ofList_toList]
      simp only [entry, hn, List.cons_append, ofEntry?]
      rw [List.dropWhile_append_of_pos hcs, List.takeWhile_append_of_pos hcs]
      simp [hname]

example : (ofList [("A", "1"), ("A=B", "c")]).seen? "A=B" = some "c" := by decide +kernel

example : (ofList [("A=B", "c")]).reread = ofList [("A", "B=c")] := by decide +kernel

end Variables

end CassetteGate
