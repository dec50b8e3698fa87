/-!
# `Text.Substring` — looking for one text inside another

Leading texts, trailing texts and substrings on lists of characters, with the lemmas that say what
they mean in terms of `++`.

## Contents
- **`after? lead cs`**: what follows `lead` at the start of `cs`.
- **`occursIn needle cs`**: `needle` occurs somewhere in `cs`.
- **`endsWith`**, **`startsWith`** and **`contains`** on strings.
-/

namespace CassetteGate.Text

/-- What follows `lead` in a text that starts with it. -/
def after? : (lead cs : List Char) → Option (List Char)
  | [], cs => some cs
  | _ :: _, [] => none
  | l :: ls, c :: cs => if l = c then after? ls cs else none

/-- `needle` occurs in `cs` as a run of neighbouring characters. -/
def occursIn (needle : List Char) : List Char → Bool
  | [] => needle.isEmpty
  | c :: cs => (after? needle (c :: cs)).isSome || occursIn needle cs

/-- `after?` inverts appending at the front. -/
theorem after?_eq_some_iff {lead cs rest : List Char} :
    after? lead cs = some rest ↔ cs = lead ++ rest := by
  induction lead generalizing cs with
  | nil => simp [after?, eq_comm]
  | cons l ls ih =>
      cases cs with
      | nil => simp [after?]
      | cons c cs =>
          by_cases h : l = c
          · subst h
            simp [after?, ih]
          · simp only [after?, if_neg h, List.cons_append, List.cons.injEq]
            constructor
            · intro hn
              cases hn
            · rintro ⟨hc, -⟩
              exact absurd hc.symm h

@[simp] theorem after?_append (lead rest : List Char) : after? lead (lead ++ rest) = some rest :=
  after?_eq_some_iff.2 rfl

/-- `occursIn` says that the text splits around the needle. -/
theorem occursIn_iff {needle cs : List Char} :
    occursIn needle cs = true ↔ ∃ before behind, cs = before ++ needle ++ behind := by
  induction cs with
  | nil =>
      simp only [occursIn, List.isEmpty_iff]
      constructor
      · rintro rfl
        exact ⟨[], [], rfl⟩
      · rintro ⟨a, b, h⟩
        have := congrArg List.length h
        simp only [List.length_nil, List.length_append] at this
        exact List.length_eq_zero_iff.1 (by omega)
  | cons c cs ih =>
      simp only [occursIn, Bool.or_eq_true, ih]
      constructor
      · rintro (h | ⟨a, b, rfl⟩)
        · obtain ⟨rest, hr⟩ := Option.isSome_iff_exists.1 h
          exact ⟨[], rest, by simpa using after?_eq_some_iff.1 hr⟩
        · exact ⟨c :: a, b, rfl⟩
      · rintro ⟨a, b, h⟩
        cases a with
        | nil =>
            left
            rw [h]
            simp
        | cons d ds =>
            right
            simp only [List.cons_append, List.cons.injEq] at h
            exact ⟨ds, b, h.2⟩

/-! ## On strings -/

/-- The text starts with `lead`. -/
def startsWith (s lead : String) : Bool := (after? lead.toList s.toList).isSome

/-- The text ends with `tail`. -/
def endsWith (s tail : String) : Bool :=
  (after? tail.toList.reverse s.toList.reverse).isSome

/-- `needle` occurs in the text. -/
def contains (s needle : String) : Bool := occursIn needle.toList s.toList

theorem startsWith_iff {s lead : String} : startsWith s lead = true ↔ ∃ rest, s = lead ++ rest := by
  simp only [startsWith, Option.isSome_iff_exists, after?_eq_some_iff]
  constructor
  · rintro ⟨rest, h⟩
    exact ⟨String.ofList rest, by rw [← String.toList_inj]; simpa using h⟩
  · rintro ⟨rest, rfl⟩
    exact ⟨rest.toList, String.toList_append⟩

theorem endsWith_iff {s tail : String} : endsWith s tail = true ↔ ∃ start, s = start ++ tail := by
  simp only [endsWith, Option.isSome_iff_exists, after?_eq_some_iff]
  constructor
  · rintro ⟨rest, h⟩
    refine ⟨String.ofList rest.reverse, ?_⟩
    rw [← String.toList_inj]
    have := congrArg List.reverse h
    simpa using this
  · rintro ⟨start, rfl⟩
    exact ⟨start.toList.reverse, by simp⟩

theorem contains_iff {s needle : String} :
    contains s needle = true ↔ ∃ before behind, s = before ++ needle ++ behind := by
  simp only [contains, occursIn_iff]
  constructor
  · rintro ⟨a, b, h⟩
    exact ⟨String.ofList a, String.ofList b, by rw [← String.toList_inj]; simpa using h⟩
  · rintro ⟨a, b, rfl⟩
    exact ⟨a.toList, b.toList, by simp⟩

end CassetteGate.Text
