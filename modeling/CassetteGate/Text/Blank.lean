/-!
# `Text.Blank` — Unicode white space, and trimming it

The 25 characters of the Unicode property `White_Space`, and the three ways of cutting them off
the ends of a text. Paths in a change list, panic lines and the error output of a process are all
trimmed with these.

## Contents
- **`isBlank`**: membership in `White_Space`. A zero-width space (U+200B), a byte order mark
  (U+FEFF) and the separators U+001C to U+001F are not in it.
- **`trimStart`**, **`trimEnd`**, **`trim`** on lists of characters, and **`trimmed`** on strings.
- `trimEnd_eq_iff`, `trim_eq_iff`: what is left of a text without the blanks at its ends.
-/

namespace CassetteGate.Text

/-- The Unicode property `White_Space`. -/
def isBlank (c : Char) : Bool :=
  let n := c.toNat
  (0x09 ≤ n && n ≤ 0x0D) || n == 0x20 || n == 0x85 || n == 0xA0 || n == 0x1680
    || (0x2000 ≤ n && n ≤ 0x200A) || n == 0x2028 || n == 0x2029 || n == 0x202F
    || n == 0x205F || n == 0x3000

/-- The text without the blanks it starts with. -/
def trimStart (cs : List Char) : List Char := cs.dropWhile isBlank

/-- The text without the blanks it ends with. -/
def trimEnd (cs : List Char) : List Char := (cs.reverse.dropWhile isBlank).reverse

/-- The text without blanks at either end. -/
def trim (cs : List Char) : List Char := trimEnd (trimStart cs)

/-- `trim` on strings. -/
def trimmed (s : String) : String := String.ofList (trim s.toList)

@[simp] theorem toList_trimmed (s : String) : (trimmed s).toList = trim s.toList := by
  simp [trimmed]

/-! ## Laws of trimming -/

@[simp] theorem trimStart_nil : trimStart [] = [] := rfl

@[simp] theorem trimEnd_nil : trimEnd [] = [] := rfl

@[simp] theorem trim_nil : trim [] = [] := rfl

/-- Trimming the end is trimming the start of the reversed text. -/
theorem reverse_trimEnd (cs : List Char) : (trimEnd cs).reverse = trimStart cs.reverse := by
  simp [trimEnd, trimStart]

/-- A trimmed start is blank-free at its head. -/
theorem head?_trimStart (cs : List Char) : ∀ c ∈ (trimStart cs).head?, isBlank c = false := by
  intro c hc
  simp only [trimStart, Option.mem_def] at hc
  induction cs with
  | nil => simp at hc
  | cons d ds ih =>
      by_cases hd : isBlank d
      · rw [List.dropWhile_cons_of_pos hd] at hc
        exact ih hc
      · rw [List.dropWhile_cons_of_neg hd] at hc
        simp only [List.head?_cons, Option.some.injEq] at hc
        subst hc
        simpa using hd

/-- What trimming the start removes is blank. -/
theorem exists_blank_append_trimStart (cs : List Char) :
    ∃ bs : List Char, (∀ b ∈ bs, isBlank b = true) ∧ bs ++ trimStart cs = cs := by
  refine ⟨cs.takeWhile isBlank, ?_, List.takeWhile_append_dropWhile⟩
  intro b hb
  induction cs with
  | nil => simp at hb
  | cons d ds ih =>
      by_cases hd : isBlank d
      · rw [List.takeWhile_cons_of_pos hd] at hb
        rcases List.mem_cons.1 hb with rfl | hb
        · exact hd
        · exact ih hb
      · rw [List.takeWhile_cons_of_neg hd] at hb
        simp at hb

/-- Trimming the end cuts off blanks up to a character that is none. -/
theorem trimEnd_eq_iff {cs kept : List Char} :
    trimEnd cs = kept ↔
      (∃ bs, cs = kept ++ bs ∧ ∀ b ∈ bs, isBlank b = true) ∧
        ∀ c ∈ kept.getLast?, isBlank c = false := by
  rw [← List.reverse_inj, reverse_trimEnd]
  constructor
  · intro h
    obtain ⟨bs, hbs, happend⟩ := exists_blank_append_trimStart cs.reverse
    rw [h] at happend
    refine ⟨⟨bs.reverse, ?_, fun b hb => hbs b (List.mem_reverse.1 hb)⟩, fun c hc => ?_⟩
    · rw [← List.reverse_inj, List.reverse_append, List.reverse_reverse]
      exact happend.symm
    · rw [← List.head?_reverse, ← h] at hc
      exact head?_trimStart cs.reverse c hc
  · rintro ⟨⟨bs, rfl, hbs⟩, hlast⟩
    rw [List.reverse_append, trimStart,
      List.dropWhile_append_of_pos fun b hb => hbs b (List.mem_reverse.1 hb)]
    cases hkept : kept.reverse with
    | nil => rfl
    | cons c rest =>
        have hc : isBlank c = false := by
          refine hlast c ?_
          rw [← List.head?_reverse, hkept]
          rfl
        rw [List.dropWhile_cons_of_neg (by rw [hc]; exact Bool.false_ne_true)]

/-- Trimming cuts off blanks at both ends, up to characters that are none. -/
theorem trim_eq_iff {cs kept : List Char} :
    trim cs = kept ↔
      (∃ front behind, cs = front ++ (kept ++ behind) ∧ (∀ b ∈ front, isBlank b = true) ∧
        ∀ b ∈ behind, isBlank b = true) ∧
      (∀ c ∈ kept.head?, isBlank c = false) ∧ ∀ c ∈ kept.getLast?, isBlank c = false := by
  unfold trim
  constructor
  · intro h
    obtain ⟨⟨behind, hcut, hbehind⟩, hlast⟩ := trimEnd_eq_iff.1 h
    obtain ⟨front, hfront, happend⟩ := exists_blank_append_trimStart cs
    refine ⟨⟨front, behind, by rw [← hcut, happend], hfront, hbehind⟩, ?_, hlast⟩
    intro c hc
    apply head?_trimStart cs c
    rw [hcut, List.head?_append, Option.mem_def.1 hc]
    rfl
  · rintro ⟨⟨front, behind, rfl, hfront, hbehind⟩, hhead, hlast⟩
    rw [trimStart, List.dropWhile_append_of_pos hfront]
    cases kept with
    | nil =>
        -- then all of it is blank
        rw [List.nil_append, ← List.append_nil behind, List.dropWhile_append_of_pos hbehind]
        rfl
    | cons c rest =>
        have hc : ¬ isBlank c = true := Bool.eq_false_iff.1 (hhead c rfl)
        rw [List.cons_append, List.dropWhile_cons_of_neg hc, ← List.cons_append]
        exact trimEnd_eq_iff.2 ⟨⟨behind, rfl, hbehind⟩, hlast⟩

/-- More blanks around a text make no difference. -/
theorem trim_padded {front cs behind kept : List Char} (h : trim cs = kept)
    (hfront : ∀ b ∈ front, isBlank b = true) (hbehind : ∀ b ∈ behind, isBlank b = true) :
    trim (front ++ (cs ++ behind)) = kept := by
  obtain ⟨⟨front', behind', rfl, hfront', hbehind'⟩, hends⟩ := trim_eq_iff.1 h
  refine trim_eq_iff.2 ⟨⟨front ++ front', behind' ++ behind, ?_, ?_, ?_⟩, hends⟩
  · simp only [List.append_assoc]
  · exact List.forall_mem_append.2 ⟨hfront, hfront'⟩
  · exact List.forall_mem_append.2 ⟨hbehind', hbehind⟩

end CassetteGate.Text
