import CassetteGate.Json.Reader
import CassetteGate.Json.Writer
import Mathlib.Data.List.Nodup

/-!
# `Proofs.Json.Written` — what is written is read back

The reader takes a value off the start of a text and hands on what follows. It finds a value at the
start of its own text whatever follows, except that a number must not be gone on with. Brackets
nest as deeply as the value does, and as every bracket has a character of its own, a text has
enough characters to count the calls of its reading.

## Contents
- **`readChars_written`**: strings, character by character.
- **`readUnsigned_written`**: numbers; **`EndsNumber`** is what may follow them.
- **`Regular`**: the values that the writer has a text for.
- **`chars`** and its equations: the text of a value from the texts of its parts.
- **`ReadsBack`**, **`Regular.readsBack`**: every regular value is found at the start of its text.
- **`parse?_render`**: reading the text of a value gives the value.
-/

namespace CassetteGate.Json

variable {cs rest : List Char} {n : Nat}

/-! ## Strings -/

theorem hexDigit?_hexChar : ∀ n, n < 16 → hexDigit? (hexChar n) = some n := by decide

/-- The escape of a control character is read as that character. -/
theorem hexUnit?_control {c : Char} (h : c.toNat < 0x20) :
    hexUnit? '0' '0' (hexChar (c.toNat / 16)) (hexChar (c.toNat % 16)) = some c.toNat := by
  have hzero : hexDigit? '0' = some 0 := by decide
  have hhigh := hexDigit?_hexChar (c.toNat / 16) (by omega)
  have hlow := hexDigit?_hexChar (c.toNat % 16) (by omega)
  unfold hexUnit?
  rw [hzero, hhigh, hlow]
  show some _ = some _
  congr 1
  omega

/-- A character that needs no escape stands for itself. -/
theorem readChars_cons_plain {c : Char} (hquote : c ≠ '"') (hslash : c ≠ '\\')
    (hcontrol : ¬ c.toNat < 0x20) :
    readChars none (c :: rest) =
      (readChars none rest).map fun found => (c :: found.1, found.2) := by
  rw [readChars.eq_def]
  split <;> simp_all [Nat.not_lt.2]

/-- A character inside a string is read as it was written. -/
theorem readChars_writeChar (c : Char) :
    readChars none (writeChar c ++ rest) =
      (readChars none rest).map fun found => (c :: found.1, found.2) := by
  unfold writeChar
  by_cases hquote : c = '"'
  · subst hquote
    simp [readChars, escaped?]
  by_cases hslash : c = '\\'
  · subst hslash
    simp [readChars, escaped?]
  rw [if_neg (by simpa using hquote), if_neg (by simpa using hslash)]
  by_cases hcontrol : c.toNat < 0x20
  · -- an escaped unit this small is no half of a surrogate pair
    have hhigh : isHighUnit c.toNat = false := by
      simp only [isHighUnit, Bool.and_eq_false_iff, decide_eq_false_iff_not]
      omega
    have hlow : isLowUnit c.toNat = false := by
      simp only [isLowUnit, Bool.and_eq_false_iff, decide_eq_false_iff_not]
      omega
    rw [if_pos hcontrol]
    simp [readChars, hexUnit?_control hcontrol, hhigh, hlow, Char.ofNat_toNat]
  · rw [if_neg hcontrol, List.singleton_append, readChars_cons_plain hquote hslash hcontrol]

/-- The body of a string is read up to the closing quote, whatever follows. -/
theorem readChars_written (cs rest : List Char) :
    readChars none (cs.flatMap writeChar ++ '"' :: rest) = some (cs, rest) := by
  induction cs with
  | nil => rfl
  | cons c cs ih => rw [List.flatMap_cons, List.append_assoc, readChars_writeChar, ih, Option.map_some]

/-! ## Numbers -/

/-- What may follow a number: nothing that would go on with it. -/
def EndsNumber (rest : List Char) : Prop :=
  ∀ c ∈ rest.head?, c.isDigit = false ∧ c ≠ '.' ∧ c ≠ 'e' ∧ c ≠ 'E'

theorem readDigits_append {ds : List Char} (hds : ∀ d ∈ ds, d.isDigit = true)
    (hrest : EndsNumber rest) : readDigits (ds ++ rest) = (ds, rest) := by
  unfold readDigits
  rw [List.takeWhile_append_of_pos hds, List.dropWhile_append_of_pos hds]
  cases rest with
  | nil => simp
  | cons c cs =>
      have hc : c.isDigit = false := (hrest c rfl).1
      simp [hc]

theorem readFraction_of_ends (hrest : EndsNumber rest) : readFraction rest = some ([], rest) := by
  cases rest with
  | nil => rfl
  | cons c cs =>
      have hc : c ≠ '.' := (hrest c rfl).2.1
      unfold readFraction
      split
      · next heq => exact absurd (List.cons.inj heq).1 hc
      · rfl

theorem readExponent_of_ends (hrest : EndsNumber rest) : readExponent rest = some ([], rest) := by
  cases rest with
  | nil => rfl
  | cons c cs =>
      obtain ⟨-, -, hlower, hupper⟩ := hrest c rfl
      simp [readExponent, hlower, hupper]

theorem digitsValue_toDigits (n : Nat) : digitsValue (Nat.toDigits 10 n) = n :=
  Nat.ofDigitChars_eq_foldl.symm.trans Nat.ofDigitChars_ten_toDigits

theorem digitChar_ne_zero : ∀ n, n < 10 → 0 < n → Nat.digitChar n ≠ '0' := by decide

/-- Digits of a number do not start with a zero, but for the number zero. -/
theorem head?_toDigits_ne_zero (h : 0 < n) : (Nat.toDigits 10 n).head? ≠ some '0' := by
  -- the first digit of a number is that of its tenth
  induction n using Nat.strongRecOn with
  | ind n ih =>
      by_cases hn : n < 10
      · rw [Nat.toDigits_of_lt_base hn, List.head?_cons]
        exact fun heq => digitChar_ne_zero n hn h (Option.some.inj heq)
      · have htens : (Nat.toDigits 10 (n / 10)).head? ≠ some '0' := ih (n / 10) (by omega) (by omega)
        rw [Nat.toDigits_of_base_le (by decide) (Nat.not_lt.1 hn),
          List.head?_append_of_ne_nil _ Nat.toDigits_ne_nil]
        exact htens

/-- No more digits than the number needs are written. -/
theorem canonical_toDigits (n : Nat) :
    ((Nat.toDigits 10 n).isEmpty ||
      decide ((Nat.toDigits 10 n).length > 1) && (Nat.toDigits 10 n).head? == some '0') = false := by
  cases n with
  | zero => rfl
  | succ n =>
      have hhead : ((Nat.toDigits 10 (n + 1)).head? == some '0') = false :=
        beq_false_of_ne (head?_toDigits_ne_zero n.succ_pos)
      rw [hhead, Bool.and_false, Bool.or_false, List.isEmpty_eq_false_iff]
      exact Nat.toDigits_ne_nil

theorem inRange_whole {ds : List Char} (h : digitsValue ds < rangeEnd) : inRange ds 0 = true := by
  show (if digitsValue ds == 0 then true
    else decide (0 ≤ 400) && decide (digitsValue ds * Nat.pow 10 0 < rangeEnd)) = true
  split
  · rfl
  · show decide (digitsValue ds * 1 < rangeEnd) = true
    rw [Nat.mul_one, decide_eq_true h]

/-- A natural number is read as it was written, behind a minus sign too unless it is zero. -/
theorem readUnsigned_written {negative : Bool} (hrange : n < rangeEnd)
    (hsign : negative = true → n ≠ 0) (hrest : EndsNumber rest) :
    readUnsigned negative (Nat.toDigits 10 n ++ rest) =
      some (.int (if negative then -n else n), rest) := by
  have hdigits : readDigits (Nat.toDigits 10 n ++ rest) = (Nat.toDigits 10 n, rest) :=
    readDigits_append (fun d hd => Nat.isDigit_of_mem_toDigits (by decide) (by decide) hd) hrest
  have hinRange : inRange (Nat.toDigits 10 n) 0 = true :=
    inRange_whole ((digitsValue_toDigits n).symm ▸ hrange)
  have hzero : (negative && n == 0) = false := by
    cases negative with
    | false => rfl
    | true => simpa using hsign
  have hguard : (guard (inRange (Nat.toDigits 10 n ++ List.drop 1 [])
      (exponentValue [] - (([] : List Char).length - 1 : Nat)) = true) : Option Unit) = some () := by
    refine if_pos ?_
    rw [List.drop_nil, List.append_nil]
    exact hinRange
  unfold readUnsigned
  rw [hdigits]
  show (if _ then _ else (readFraction rest).bind _) = _
  rw [canonical_toDigits, if_neg Bool.false_ne_true, readFraction_of_ends hrest, Option.bind_some]
  show (readExponent rest).bind _ = _
  rw [readExponent_of_ends hrest, Option.bind_some]
  show (guard _ : Option Unit).bind _ = _
  rw [hguard, Option.bind_some, digitsValue_toDigits]
  refine if_pos ?_
  rw [hzero]
  rfl

/-! ## Values -/

/-- A value with at most `levels` brackets around one another, whose numbers are integers that double
    precision can hold and whose objects bind no name twice. -/
inductive Regular : (levels : Nat) → Json → Prop
  | null {levels} : Regular levels .null
  | bool {levels} (b : Bool) : Regular levels (.bool b)
  | int {levels} {i : Int} (range : i.natAbs < rangeEnd) : Regular levels (.int i)
  | str {levels} (s : String) : Regular levels (.str s)
  | arr {levels items} (inside : ∀ j ∈ items, Regular levels j) : Regular (levels + 1) (.arr items)
  | obj {levels members} (distinct : (members.map Prod.fst).Nodup)
      (inside : ∀ m ∈ members, Regular levels m.2) : Regular (levels + 1) (.obj members)

theorem Regular.mono {levels more : Nat} {j : Json} (h : Regular levels j) (hle : levels ≤ more) :
    Regular more j := by
  induction h generalizing more with
  | null => exact .null
  | bool b => exact .bool b
  | int range => exact .int range
  | str s => exact .str s
  | arr _ ih =>
      obtain ⟨more, rfl⟩ := Nat.exists_eq_add_one.2 (Nat.lt_of_lt_of_le (Nat.succ_pos _) hle)
      exact .arr fun j hj => ih j hj (Nat.le_of_succ_le_succ hle)
  | obj distinct _ ih =>
      obtain ⟨more, rfl⟩ := Nat.exists_eq_add_one.2 (Nat.lt_of_lt_of_le (Nat.succ_pos _) hle)
      exact .obj distinct fun m hm => ih m hm (Nat.le_of_succ_le_succ hle)

/-- The characters of a value's text. -/
def chars (j : Json) : List Char := (render j).toList

/-- The characters of a member. -/
def memberChars (m : String × Json) : List Char := (quoted m.1).toList ++ ':' :: chars m.2

theorem renderItems_eq (items : List Json) : renderItems items = items.map render := by
  induction items with
  | nil => rfl
  | cons j items ih => rw [renderItems, ih, List.map_cons]

theorem renderMembers_eq (members : List (String × Json)) :
    renderMembers members = members.map fun m => quoted m.1 ++ ":" ++ render m.2 := by
  induction members with
  | nil => rfl
  | cons m members ih =>
      rw [renderMembers, ih, List.map_cons]

theorem chars_arr (items : List Json) :
    chars (.arr items) = '[' :: ([','].intercalate (items.map chars) ++ [']']) := by
  unfold chars
  rw [render, renderItems_eq]
  simp [String.toList_intercalate, Function.comp_def]

theorem chars_obj (members : List (String × Json)) :
    chars (.obj members) = '\x7b' :: ([','].intercalate (members.map memberChars) ++ ['\x7d']) := by
  unfold chars
  rw [render, renderMembers_eq]
  simp only [String.toList_append, String.toList_intercalate, List.map_map, List.append_assoc,
    Function.comp_def]
  rfl

theorem toList_quoted (s : String) :
    (quoted s).toList = '"' :: (s.toList.flatMap writeChar ++ ['"']) := by
  simp [quoted]

/-- A text as every value starts: with no blank, and not with the end of an array or object. -/
def Opens (cs : List Char) : Prop :=
  ∃ c tail, cs = c :: tail ∧ c ≠ ' ' ∧ c ≠ '\t' ∧ c ≠ '\n' ∧ c ≠ '\r' ∧ c ≠ ']' ∧ c ≠ '\x7d'

theorem Opens.skipBlanks (h : Opens cs) : Json.skipBlanks (cs ++ rest) = cs ++ rest := by
  obtain ⟨c, tail, rfl, h1, h2, h3, h4, -⟩ := h
  simp [Json.skipBlanks, h1, h2, h3, h4]

theorem Opens.append (h : Opens cs) : Opens (cs ++ rest) := by
  obtain ⟨c, tail, rfl, hc⟩ := h
  exact ⟨c, tail ++ rest, rfl, hc⟩

/-- The characters that a number starts with. -/
def StartsNumber (c : Char) : Prop := c.isDigit = true ∨ c = '-'

theorem StartsNumber.ne {c d : Char} (hc : StartsNumber c) (hd : d.isDigit = false ∧ d ≠ '-') : c ≠ d := by
  rintro rfl
  rcases hc with h | h
  · exact absurd (h.symm.trans hd.1) nofun
  · exact hd.2 h

theorem chars_int (i : Int) :
    chars (.int i) = (if i < 0 then ['-'] else []) ++ Nat.toDigits 10 i.natAbs := by
  have hrender : chars (.int i) = i.repr.toList := rfl
  rw [hrender]
  cases i with
  | ofNat n => exact Nat.toList_repr
  | negSucc n =>
      show ("-" ++ (n + 1).repr).toList = _
      rw [String.toList_append, Nat.toList_repr, if_pos (Int.negSucc_lt_zero n)]
      rfl

theorem exists_toDigits (n : Nat) : ∃ d ds, Nat.toDigits 10 n = d :: ds ∧ d.isDigit = true := by
  cases hdigits : Nat.toDigits 10 n with
  | nil => exact absurd hdigits Nat.toDigits_ne_nil
  | cons d ds =>
      have hmem : d ∈ Nat.toDigits 10 n := hdigits ▸ List.mem_cons_self
      exact ⟨d, ds, rfl, Nat.isDigit_of_mem_toDigits (by decide) (by decide) hmem⟩

/-- The text of a number starts as one. -/
theorem exists_chars_int (i : Int) : ∃ c tail, chars (.int i) = c :: tail ∧ StartsNumber c := by
  rw [chars_int]
  obtain ⟨d, ds, hdigits, hd⟩ := exists_toDigits i.natAbs
  split
  · exact ⟨'-', _, rfl, .inr rfl⟩
  · exact ⟨d, ds, hdigits, .inl hd⟩

theorem opens_chars {levels : Nat} {j : Json} (h : Regular levels j) : Opens (chars j) := by
  cases h with
  | null => exact ⟨'n', _, rfl, by decide⟩
  | bool b =>
      cases b with
      | false => exact ⟨'f', _, rfl, by decide⟩
      | true => exact ⟨'t', _, rfl, by decide⟩
  | int _ =>
      obtain ⟨c, tail, hchars, hc⟩ := exists_chars_int _
      exact ⟨c, tail, hchars, hc.ne (by decide), hc.ne (by decide), hc.ne (by decide),
        hc.ne (by decide), hc.ne (by decide), hc.ne (by decide)⟩
  | str s => exact ⟨'"', _, toList_quoted s, by decide⟩
  | arr _ => exact ⟨'[', _, chars_arr _, by decide⟩
  | obj _ _ => exact ⟨'\x7b', _, chars_obj _, by decide⟩

/-! ## Reading values -/

/-- However much may still be nested and whatever follows, reading finds the value at the start of
    its text. -/
def ReadsBack (levels : Nat) (j : Json) : Prop :=
  ∀ ⦃fuel depth : Nat⦄ ⦃rest : List Char⦄, (chars j).length ≤ fuel → levels ≤ depth →
    EndsNumber rest → readValue fuel depth (chars j ++ rest) = some (j, rest)

theorem skipBlanks_quote (cs : List Char) : skipBlanks ('"' :: cs) = '"' :: cs := rfl

theorem skipBlanks_colon (cs : List Char) : skipBlanks (':' :: cs) = ':' :: cs := rfl

theorem skipBlanks_comma (cs : List Char) : skipBlanks (',' :: cs) = ',' :: cs := rfl

theorem skipBlanks_brace (cs : List Char) : skipBlanks ('\x7d' :: cs) = '\x7d' :: cs := rfl

theorem endsNumber_cons {c : Char} (h : c.isDigit = false ∧ c ≠ '.' ∧ c ≠ 'e' ∧ c ≠ 'E') :
    EndsNumber (c :: rest) := by
  intro d hd
  obtain rfl := Option.some.inj hd
  exact h

theorem readValue_of_startsNumber {fuel depth : Nat} {c : Char} (hc : StartsNumber c) :
    readValue (fuel + 1) depth (c :: cs) = readNumber (c :: cs) := by
  have hskip : skipBlanks (c :: cs) = c :: cs := by
    simp [skipBlanks, hc.ne (d := ' ') (by decide), hc.ne (d := '\t') (by decide),
      hc.ne (d := '\n') (by decide), hc.ne (d := '\r') (by decide)]
  rw [readValue, hskip]
  split
  · next heq => exact absurd (List.cons.inj heq).1 (hc.ne (by decide))
  · next heq => exact absurd (List.cons.inj heq).1 (hc.ne (by decide))
  · next heq => exact absurd (List.cons.inj heq).1 (hc.ne (by decide))
  · simp [Text.after?, (hc.ne (d := 'n') (by decide)).symm, (hc.ne (d := 't') (by decide)).symm,
      (hc.ne (d := 'f') (by decide)).symm]

theorem readNumber_of_isDigit {c : Char} (hc : c.isDigit = true) :
    readNumber (c :: cs) = readUnsigned false (c :: cs) := by
  unfold readNumber
  split
  · next heq =>
      obtain rfl := (List.cons.inj heq).1
      exact absurd hc (by decide)
  · rfl

theorem readNumber_written {i : Int} (hrange : i.natAbs < rangeEnd) (hrest : EndsNumber rest) :
    readNumber (chars (.int i) ++ rest) = some (.int i, rest) := by
  rw [chars_int]
  split
  · next hneg =>
      show readUnsigned true (Nat.toDigits 10 i.natAbs ++ rest) = _
      rw [readUnsigned_written hrange (by omega) hrest, if_pos rfl]
      congr 3
      omega
  · next hneg =>
      obtain ⟨d, ds, hdigits, hd⟩ := exists_toDigits i.natAbs
      have hread : readUnsigned false (Nat.toDigits 10 i.natAbs ++ rest) =
          some (.int i.natAbs, rest) := readUnsigned_written hrange nofun hrest
      rw [hdigits] at hread ⊢
      rw [List.nil_append, List.cons_append, readNumber_of_isDigit hd, ← List.cons_append, hread]
      congr 3
      exact Int.natAbs_of_nonneg (Int.not_lt.1 hneg)

theorem intercalate_opens {texts : List (List Char)} (hne : texts ≠ []) (h : ∀ t ∈ texts, Opens t) :
    Opens ([','].intercalate texts) := by
  cases texts with
  | nil => exact absurd rfl hne
  | cons t texts =>
      cases texts with
      | nil =>
        rw [List.intercalate_singleton]
        exact h t List.mem_cons_self
      | cons u texts =>
          rw [List.intercalate_cons_cons, List.append_assoc]
          exact (h t List.mem_cons_self).append

/-- The items of an array are read up to its end. -/
theorem readItems_written {levels : Nat} {items : List Json} (hne : items ≠ [])
    (hback : ∀ j ∈ items, ReadsBack levels j) {fuel depth : Nat} {rest : List Char}
    (hfuel : ([','].intercalate (items.map chars)).length < fuel) (hdepth : levels ≤ depth) :
    readItems fuel depth ([','].intercalate (items.map chars) ++ ']' :: rest) = some (items, rest) := by
  -- on the items; every call but the last finds a comma behind its item
  induction items generalizing fuel with
  | nil => exact absurd rfl hne
  | cons j items ih =>
      obtain ⟨fuel, rfl⟩ := Nat.exists_eq_add_one.2 (Nat.zero_lt_of_lt hfuel)
      obtain ⟨hj, hitems⟩ := List.forall_mem_cons.1 hback
      cases items with
      | nil =>
          rw [List.map_singleton, List.intercalate_singleton] at hfuel ⊢
          rw [readItems, hj (Nat.le_of_lt_succ hfuel) hdepth (endsNumber_cons (by decide))]
          rfl
      | cons k items =>
          rw [List.map_cons, List.map_cons, List.intercalate_cons_cons, ← List.map_cons] at hfuel ⊢
          simp only [List.length_append, List.length_cons, List.length_nil] at hfuel
          rw [readItems, List.append_assoc, List.append_assoc, List.singleton_append,
            hj (by omega) hdepth (endsNumber_cons (by decide))]
          show (readItems fuel depth _).map _ = _
          rw [ih nofun hitems (by omega)]
          rfl

theorem putMember_of_notMem {name : String} {value : Json} {before : List (String × Json)}
    (h : name ∉ before.map Prod.fst) : putMember name value before = before ++ [(name, value)] := by
  induction before with
  | nil => rfl
  | cons m before ih =>
      rw [List.map_cons, List.mem_cons, not_or] at h
      rw [putMember, if_neg (Ne.symm h.1), ih h.2]
      rfl

theorem memberChars_append (m : String × Json) (rest : List Char) :
    memberChars m ++ rest =
      '"' :: (m.1.toList.flatMap writeChar ++ '"' :: ':' :: (chars m.2 ++ rest)) := by
  simp [memberChars, toList_quoted]

section

variable {levels fuel depth : Nat} {m : String × Json} {before : List (String × Json)}

theorem length_chars_le (hfuel : (memberChars m).length ≤ fuel) : (chars m.2).length ≤ fuel := by
  simp only [memberChars, List.length_append, List.length_cons] at hfuel
  omega

/-- Behind a comma, reading goes on with the next member. -/
theorem readMembers_comma (hback : ReadsBack levels m.2) (hfuel : (memberChars m).length ≤ fuel)
    (hdepth : levels ≤ depth) (hnew : m.1 ∉ before.map Prod.fst) :
    readMembers (fuel + 1) depth before (memberChars m ++ ',' :: rest) =
      readMembers fuel depth (before ++ [m]) rest := by
  have hvalue : readValue fuel depth (chars m.2 ++ ',' :: rest) = some (m.2, ',' :: rest) :=
    hback (length_chars_le hfuel) hdepth (endsNumber_cons (by decide))
  rw [memberChars_append, readMembers]
  simp only [skipBlanks_quote, skipBlanks_colon, skipBlanks_comma, readChars_written, hvalue,
    String.ofList_toList, putMember_of_notMem hnew]

/-- Behind a closing brace, the object has been read. -/
theorem readMembers_brace (hback : ReadsBack levels m.2) (hfuel : (memberChars m).length ≤ fuel)
    (hdepth : levels ≤ depth) (hnew : m.1 ∉ before.map Prod.fst) :
    readMembers (fuel + 1) depth before (memberChars m ++ '\x7d' :: rest) =
      some (before ++ [m], rest) := by
  have hvalue : readValue fuel depth (chars m.2 ++ '\x7d' :: rest) = some (m.2, '\x7d' :: rest) :=
    hback (length_chars_le hfuel) hdepth (endsNumber_cons (by decide))
  rw [memberChars_append, readMembers]
  simp only [skipBlanks_quote, skipBlanks_colon, skipBlanks_brace, readChars_written, hvalue,
    String.ofList_toList, putMember_of_notMem hnew]

end

/-- The members of an object are read up to its end, onto those before them. -/
theorem readMembers_written {levels : Nat} {members : List (String × Json)} (hne : members ≠ [])
    (hback : ∀ m ∈ members, ReadsBack levels m.2) {fuel depth : Nat}
    {before : List (String × Json)} {rest : List Char}
    (hdistinct : ((before ++ members).map Prod.fst).Nodup)
    (hfuel : ([','].intercalate (members.map memberChars)).length < fuel) (hdepth : levels ≤ depth) :
    readMembers fuel depth before ([','].intercalate (members.map memberChars) ++ '\x7d' :: rest) =
      some (before ++ members, rest) := by
  -- on the members still to come, onto any members that bind other names
  induction members generalizing fuel before with
  | nil => exact absurd rfl hne
  | cons m members ih =>
      obtain ⟨fuel, rfl⟩ := Nat.exists_eq_add_one.2 (Nat.zero_lt_of_lt hfuel)
      obtain ⟨hm, hmembers⟩ := List.forall_mem_cons.1 hback
      have hnew : m.1 ∉ before.map Prod.fst := by
        rw [List.map_append, List.map_cons] at hdistinct
        exact fun hmem => (List.nodup_append.1 hdistinct).2.2 m.1 hmem m.1 List.mem_cons_self rfl
      cases members with
      | nil =>
          rw [List.map_singleton, List.intercalate_singleton] at hfuel ⊢
          exact readMembers_brace hm (Nat.le_of_lt_succ hfuel) hdepth hnew
      | cons k members =>
          rw [List.map_cons, List.map_cons, List.intercalate_cons_cons, ← List.map_cons] at hfuel ⊢
          simp only [List.length_append, List.length_cons, List.length_nil] at hfuel
          rw [List.append_assoc, List.append_assoc, List.singleton_append,
            readMembers_comma hm (by omega) hdepth hnew,
            ih nofun hmembers (by rwa [List.append_assoc]) (by omega), List.append_assoc]
          rfl

theorem readValue_arr {levels fuel depth : Nat} {items : List Json} (hdepth : levels < depth)
    (hopens : ∀ j ∈ items, Opens (chars j)) (hback : ∀ j ∈ items, ReadsBack levels j)
    (hfuel : (chars (.arr items)).length ≤ fuel + 1) :
    readValue (fuel + 1) depth (chars (.arr items) ++ rest) = some (.arr items, rest) := by
  have hskip (cs : List Char) : skipBlanks ('[' :: cs) = '[' :: cs := rfl
  rw [chars_arr] at hfuel ⊢
  simp only [List.length_append, List.length_cons, List.length_nil] at hfuel
  rw [List.cons_append, List.append_assoc, readValue, hskip]
  show (if depth = 0 then none else _) = _
  rw [if_neg (by omega)]
  by_cases hne : items = []
  · subst hne
    rfl
  · have htexts : Opens ([','].intercalate (items.map chars)) :=
      intercalate_opens (by simpa using hne) (List.forall_mem_map.2 hopens)
    rw [htexts.skipBlanks, List.singleton_append]
    -- the first item does not look like the end of the array
    obtain ⟨c, tail, hc, -, -, -, -, hend, -⟩ := htexts
    split
    · next heq =>
        rw [hc] at heq
        exact absurd (List.cons.inj heq).1 hend
    · rw [readItems_written hne hback (by omega) (by omega)]
      rfl

theorem opens_memberChars (m : String × Json) : Opens (memberChars m) := by
  unfold memberChars
  rw [toList_quoted]
  exact ⟨'"', _, rfl, by decide⟩

theorem readValue_obj {levels fuel depth : Nat} {members : List (String × Json)}
    (hdepth : levels < depth) (hdistinct : (members.map Prod.fst).Nodup)
    (hback : ∀ m ∈ members, ReadsBack levels m.2)
    (hfuel : (chars (.obj members)).length ≤ fuel + 1) :
    readValue (fuel + 1) depth (chars (.obj members) ++ rest) = some (.obj members, rest) := by
  have hskip (cs : List Char) : skipBlanks ('\x7b' :: cs) = '\x7b' :: cs := rfl
  rw [chars_obj] at hfuel ⊢
  simp only [List.length_append, List.length_cons, List.length_nil] at hfuel
  rw [List.cons_append, List.append_assoc, readValue, hskip]
  show (if depth = 0 then none else _) = _
  rw [if_neg (by omega)]
  by_cases hne : members = []
  · subst hne
    rfl
  · have htexts : Opens ([','].intercalate (members.map memberChars)) :=
      intercalate_opens (by simpa using hne) (List.forall_mem_map.2 fun m _ => opens_memberChars m)
    rw [htexts.skipBlanks, List.singleton_append]
    obtain ⟨c, tail, hc, -, -, -, -, -, hend⟩ := htexts
    split
    · next heq =>
        rw [hc] at heq
        exact absurd (List.cons.inj heq).1 hend
    · have hread : readMembers fuel (depth - 1) []
          ([','].intercalate (members.map memberChars) ++ '\x7d' :: rest) = some (members, rest) :=
        readMembers_written hne hback hdistinct (by omega) (by omega)
      rw [hread]
      rfl

/-- As every text has a character, one unit of fuel is always there. -/
theorem readsBack_of_succ {levels : Nat} {j : Json} (hopens : Opens (chars j))
    (h : ∀ ⦃fuel depth : Nat⦄ ⦃rest : List Char⦄, (chars j).length ≤ fuel + 1 → levels ≤ depth →
      EndsNumber rest → readValue (fuel + 1) depth (chars j ++ rest) = some (j, rest)) :
    ReadsBack levels j := by
  intro fuel depth rest hfuel hdepth hrest
  obtain ⟨c, tail, hchars, -⟩ := hopens
  have hpos : 0 < fuel := Nat.lt_of_lt_of_le (by simp [hchars]) hfuel
  obtain ⟨fuel, rfl⟩ := Nat.exists_eq_add_one.2 hpos
  exact h hfuel hdepth hrest

/-- **A value is found at the start of its text.** -/
theorem Regular.readsBack {levels : Nat} {j : Json} (h : Regular levels j) : ReadsBack levels j := by
  refine readsBack_of_succ (opens_chars h) ?_
  -- on how the value is built: its parts are read with the fuel that its own brackets leave
  induction h with
  | null =>
      intro fuel depth rest _ _ _
      rfl
  | bool b =>
      intro fuel depth rest _ _ _
      cases b <;> rfl
  | @int _ i range =>
      intro fuel depth rest _ _ hrest
      obtain ⟨c, tail, hchars, hc⟩ := exists_chars_int i
      have hread := readNumber_written range hrest
      rw [hchars] at hread ⊢
      exact (readValue_of_startsNumber hc).trans hread
  | str s =>
      intro fuel depth rest _ _ _
      have hchars : chars (.str s) ++ rest = '"' :: (s.toList.flatMap writeChar ++ '"' :: rest) := by
        simp [chars, render, toList_quoted]
      rw [hchars, readValue, skipBlanks_quote]
      simp only [readChars_written, Option.map_some, String.ofList_toList]
  | arr inside ih =>
      intro fuel depth rest hfuel hdepth _
      have hopens j hj := opens_chars (inside j hj)
      exact readValue_arr hdepth hopens (fun j hj => readsBack_of_succ (hopens j hj) (ih j hj)) hfuel
  | obj distinct inside ih =>
      intro fuel depth rest hfuel hdepth _
      have hback m hm := readsBack_of_succ (opens_chars (inside m hm)) (ih m hm)
      exact readValue_obj hdepth distinct hback hfuel

/-- **Reading the text of a value gives the value.** -/
theorem parse?_render {j : Json} (h : Regular maxDepth j) : parse? (render j) = some j := by
  have hread : readValue (2 * (render j).toList.length + 4) maxDepth ((render j).toList ++ []) =
      some (j, []) := h.readsBack (Nat.le_add_right_of_le (Nat.le_mul_of_pos_left _ Nat.two_pos))
    (Nat.le_refl _) nofun
  rw [List.append_nil] at hread
  unfold parse?
  simp only [hread]
  rfl

end CassetteGate.Json
