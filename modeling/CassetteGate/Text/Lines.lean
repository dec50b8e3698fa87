/-!
# `Text.Lines` — cutting a text into lines

Two notions of a line. A test log and a diff are cut at every newline and nowhere else
(`splitLines`): the text `"a\n"` has the lines `a` and the empty line. A listing, one entry per
line, drops the empty end and a carriage return before a newline (`entries`).

## Contents
- **`splitLines`**, its inverse **`unlines`**, and **`entries`**.
- `unlines_splitLines`: cutting loses nothing.
- `splitLines_unlines`: lines without newlines are found again.
- `splitLines_append_newline`: how the lines of two texts meet.
-/

namespace CassetteGate.Text

/-- The pieces between newlines; at least one, and none holds a newline. -/
def splitLines : List Char → List (List Char)
  | [] => [[]]
  | c :: cs =>
      if c = '\n' then [] :: splitLines cs
      else
        match splitLines cs with
        | [] => [[c]]
        | l :: ls => (c :: l) :: ls

/-- Lines put together with a newline between neighbours. -/
def unlines : List (List Char) → List Char
  | [] => []
  | [l] => l
  | l :: m :: ls => l ++ '\n' :: unlines (m :: ls)

/-- A line without the carriage return it may end with. -/
def dropCarriageReturn (l : List Char) : List Char :=
  if l.getLast? = some '\r' then l.dropLast else l

/-- The entries of a listing that is cut into `lines`: all but the last piece had a newline behind
    it and lose a carriage return before it; the last piece counts only if it is not empty. -/
def entriesOf : List (List Char) → List (List Char)
  | [] => []
  | [l] => if l.isEmpty then [] else [l]
  | l :: m :: ls => dropCarriageReturn l :: entriesOf (m :: ls)

/-- The entries of a listing with one entry per line. -/
def entries (s : String) : List String := (entriesOf (splitLines s.toList)).map String.ofList

/-! ## Laws -/

theorem splitLines_ne_nil (cs : List Char) : splitLines cs ≠ [] := by
  cases cs with
  | nil => simp [splitLines]
  | cons c cs =>
      simp only [splitLines]
      split
      · simp
      · split <;> simp

@[simp] theorem splitLines_nil : splitLines [] = [[]] := rfl

theorem splitLines_newline (cs : List Char) : splitLines ('\n' :: cs) = [] :: splitLines cs := by
  simp [splitLines]

theorem splitLines_cons {c : Char} (hc : c ≠ '\n') (cs : List Char) :
    splitLines (c :: cs) = (c :: (splitLines cs).headD []) :: (splitLines cs).tail := by
  rcases h : splitLines cs with _ | ⟨l, ls⟩
  · exact absurd h (splitLines_ne_nil cs)
  · simp [splitLines, hc, h]

/-- No piece holds a newline. -/
theorem newline_notMem_of_mem_splitLines {cs l : List Char} (h : l ∈ splitLines cs) :
    '\n' ∉ l := by
  induction cs generalizing l with
  | nil =>
      simp only [splitLines_nil, List.mem_singleton] at h
      subst h
      simp
  | cons c cs ih =>
      by_cases hc : c = '\n'
      · subst hc
        rw [splitLines_newline] at h
        rcases List.mem_cons.1 h with rfl | h
        · simp
        · exact ih h
      · rcases hs : splitLines cs with _ | ⟨m, ms⟩
        · exact absurd hs (splitLines_ne_nil cs)
        · rw [splitLines_cons hc, hs] at h
          simp only [List.headD_cons, List.tail_cons, List.mem_cons] at h
          rcases h with rfl | h
          · simp only [List.mem_cons, not_or]
            exact ⟨Ne.symm hc, ih (by simp [hs])⟩
          · exact ih (by simp [hs, h])

/-- Cutting into lines loses nothing. -/
@[simp] theorem unlines_splitLines (cs : List Char) : unlines (splitLines cs) = cs := by
  induction cs with
  | nil => rfl
  | cons c cs ih =>
      rcases hs : splitLines cs with _ | ⟨m, ms⟩
      · exact absurd hs (splitLines_ne_nil cs)
      · rw [hs] at ih
        by_cases hc : c = '\n'
        · subst hc
          rw [splitLines_newline, hs]
          simp only [unlines, List.nil_append, ih]
        · rw [splitLines_cons hc, hs]
          cases ms with
          | nil => simpa [unlines] using ih
          | cons n ns => simpa [unlines] using ih

/-- A text behind a finished line: the lines of both, one after the other. -/
theorem splitLines_append_newline (as bs : List Char) :
    splitLines (as ++ '\n' :: bs) = splitLines as ++ splitLines bs := by
  induction as with
  | nil => simp [splitLines_newline]
  | cons a as ih =>
      by_cases ha : a = '\n'
      · subst ha
        simp [splitLines_newline, ih]
      · rw [List.cons_append, splitLines_cons ha, splitLines_cons ha, ih]
        rcases hs : splitLines as with _ | ⟨m, ms⟩
        · exact absurd hs (splitLines_ne_nil as)
        · simp

/-- A text without a newline is one line. -/
theorem splitLines_of_newline_notMem {l : List Char} (h : '\n' ∉ l) : splitLines l = [l] := by
  induction l with
  | nil => rfl
  | cons c cs ih =>
      simp only [List.mem_cons, not_or] at h
      rw [splitLines_cons (Ne.symm h.1), ih h.2]
      rfl

/-- Lines without newlines are found again in the text that they make. -/
theorem splitLines_unlines {ls : List (List Char)} (hne : ls ≠ []) (h : ∀ l ∈ ls, '\n' ∉ l) :
    splitLines (unlines ls) = ls := by
  induction ls with
  | nil => exact absurd rfl hne
  | cons l ls ih =>
      obtain ⟨hl, hls⟩ := List.forall_mem_cons.1 h
      cases ls with
      | nil => exact splitLines_of_newline_notMem hl
      | cons m ms =>
          show splitLines (l ++ '\n' :: unlines (m :: ms)) = l :: m :: ms
          rw [splitLines_append_newline, splitLines_of_newline_notMem hl, ih nofun hls]
          rfl

end CassetteGate.Text
