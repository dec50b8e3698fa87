import CassetteGate.State
import CassetteGate.Text.Substring

/-!
# `RunRecord` — the state of a run as it is stored

A stored state carries the identifier of its run and the moment at which the run started. Both are
kept as text in a canonical spelling.

## Contents
- **`RunId`**: an identifier of 32 hexadecimal digits in groups.
- **`Timestamp`**: a moment, in universal time.
- **`RunRecord`**: a state with both.
-/

namespace CassetteGate

/-! ## Identifiers -/

namespace RunId

/-- Whether a character is a hexadecimal digit in lower case. -/
def isDigit (c : Char) : Bool := ('0' ≤ c && c ≤ '9') || ('a' ≤ c && c ≤ 'f')

/-- The sizes of the groups of digits. -/
def groupSizes : List Nat := [8, 4, 4, 4, 12]

/-- Digits in groups of the given sizes, with a hyphen between neighbours. -/
def grouped : List Nat → List Char → List Char
  | [], _ => []
  | [n], cs => cs.take n
  | n :: ns, cs => cs.take n ++ '-' :: grouped ns (cs.drop n)

/-- Whether a text is the canonical spelling of an identifier. -/
def isCanonical (s : String) : Bool :=
  let digits := s.toList.filter (· != '-')
  digits.length == 32 && digits.all isDigit && s.toList == grouped groupSizes digits

/-- An upper case letter of the ASCII range in lower case. -/
def lower (c : Char) : Char := if 'A' ≤ c ∧ c ≤ 'Z' then Char.ofNat (c.toNat + 32) else c

/-- The spelling that a text most likely stands for: in lower case, without braces or the name of
    the scheme around it, and with the hyphens put in if there are none. -/
def respell (s : String) : String :=
  let cs := s.toList
  let bare :=
    match Text.after? "urn:uuid:".toList cs with
    | some rest => rest
    | none =>
        if cs.length = 38 && cs.head? == some '\x7b' && cs.getLast? == some '\x7d' then
          (cs.drop 1).dropLast
        else if cs.length = 32 then grouped groupSizes cs
        else cs
  String.ofList (bare.map lower)

end RunId

/-- The identifier of a run. -/
structure RunId where
  /-- The canonical spelling. -/
  text : String
  /-- The spelling is canonical. -/
  canonical : RunId.isCanonical text = true
  deriving DecidableEq

/-- The identifier that a text denotes. -/
def RunId.ofText? (s : String) : Option RunId :=
  if h : RunId.isCanonical s = true then some ⟨s, h⟩
  else if h : RunId.isCanonical (RunId.respell s) = true then some ⟨RunId.respell s, h⟩
  else none

theorem RunId.ofText?_text (id : RunId) : RunId.ofText? id.text = some id := by
  simp [RunId.ofText?, id.canonical]

/-! ## Moments -/

namespace Timestamp

/-- The number that decimal digits of the given count spell, and what follows. -/
def digits? : (count acc : Nat) → List Char → Option (Nat × List Char)
  | 0, acc, cs => some (acc, cs)
  | count + 1, acc, c :: cs =>
      if '0' ≤ c ∧ c ≤ '9' then digits? count (acc * 10 + (c.toNat - 48)) cs else none
  | _ + 1, _, [] => none

/-- The number that the decimal digits at the start of a text spell, and what follows; there must be
    one. -/
def run? (cs : List Char) : Option (Nat × List Char) := do
  let ds := cs.takeWhile Char.isDigit
  guard !ds.isEmpty
  return (ds.foldl (fun n c => n * 10 + (c.toNat - 48)) 0, cs.dropWhile Char.isDigit)

/-- The first year that can be told. -/
def firstYear : Int := -262143

/-- The last year that can be told. -/
def lastYear : Int := 262142

/-- The year at the start of a text, and what follows: four digits, or a sign and any digits. -/
def year? (cs : List Char) : Option (Int × List Char) := do
  let (year, rest) ←
    match cs with
    | '-' :: ds => (run? ds).map fun (n, rest) => (-(n : Int), rest)
    | '+' :: ds => (run? ds).map fun (n, rest) => ((n : Int), rest)
    | _ => (digits? 4 0 cs).map fun (n, rest) => ((n : Int), rest)
  guard (firstYear ≤ year ∧ year ≤ lastYear)
  return (year, rest)

/-- A year in its canonical spelling: at least four digits, behind a sign if the year lies before
    the year 0 or does not fit in four digits. -/
def respellYear (year : Int) : List Char :=
  let ds := Nat.toDigits 10 year.natAbs
  let padded := List.replicate (4 - ds.length) '0' ++ ds
  if year < 0 then '-' :: padded else if 9999 < year then '+' :: padded else padded

/-- How many days a month has. -/
def daysIn (year : Int) (month : Nat) : Nat :=
  if month = 2 then
    if year % 4 = 0 ∧ (year % 100 ≠ 0 ∨ year % 400 = 0) then 29 else 28
  else if month = 4 ∨ month = 6 ∨ month = 9 ∨ month = 11 then 30
  else 31

/-- What follows the given character. -/
def drop? (c : Char) : List Char → Option (List Char)
  | d :: ds => if c = d then some ds else none
  | [] => none

/-- What follows the rest of a date and a time of day behind a year; the sixtieth second is a leap
    second. -/
def afterClock? (year : Int) (cs : List Char) : Option (List Char) := do
  let (month, cs) ← digits? 2 0 (← drop? '-' cs)
  let (day, cs) ← digits? 2 0 (← drop? '-' cs)
  let (hour, cs) ← digits? 2 0 (← drop? 'T' cs)
  let (minute, cs) ← digits? 2 0 (← drop? ':' cs)
  let (second, cs) ← digits? 2 0 (← drop? ':' cs)
  guard (1 ≤ month ∧ month ≤ 12 ∧ 1 ≤ day ∧ day ≤ daysIn year month ∧ hour < 24 ∧ minute < 60
    ∧ second ≤ 60)
  return cs

/-- Nine digits of a fraction of a second without groups of three zeros at their end. -/
def dropZeroGroups (ds : List Char) : List Char :=
  if ds = List.replicate 9 '0' then []
  else if ds.drop 3 = List.replicate 6 '0' then ds.take 3
  else if ds.drop 6 = List.replicate 3 '0' then ds.take 6
  else ds

/-- The fraction of a second behind a clock time in its canonical spelling: none, or a point and
    three, six or nine digits. -/
def respellFraction (ds : List Char) : List Char :=
  match dropZeroGroups ((ds ++ List.replicate 9 '0').take 9) with
  | [] => []
  | kept => '.' :: kept

/-- The canonical spelling of a moment in universal time. -/
def respell? (s : String) : Option String := do
  let (year, cs) ← year? s.toList
  let rest ← afterClock? year cs
  let clock := respellYear year ++ cs.take (cs.length - rest.length)
  match rest with
  | ['Z'] => return String.ofList (clock ++ ['Z'])
  | '.' :: ds =>
      let fraction := ds.dropLast
      guard (ds.getLast? = some 'Z' && !fraction.isEmpty && fraction.all Char.isDigit)
      return String.ofList (clock ++ respellFraction fraction ++ ['Z'])
  | _ => none

example : respell? "2024-02-29T23:59:60.500Z" = some "2024-02-29T23:59:60.500Z" := by
  decide +kernel

example : respell? "-0004-02-29T00:00:00Z" = some "-0004-02-29T00:00:00Z" := by decide +kernel

end Timestamp

/-- A moment in universal time. -/
structure Timestamp where
  /-- The canonical spelling. -/
  text : String
  /-- The spelling is canonical. -/
  canonical : Timestamp.respell? text = some text
  deriving DecidableEq

/-- The moment that a text denotes. -/
def Timestamp.ofText? (s : String) : Option Timestamp :=
  match Timestamp.respell? s with
  | none => none
  | some t => if h : Timestamp.respell? t = some t then some ⟨t, h⟩ else none

theorem Timestamp.ofText?_text (t : Timestamp) : Timestamp.ofText? t.text = some t := by
  simp [Timestamp.ofText?, t.canonical]

/-! ## Records -/

/-- The state of a run as it is stored. -/
structure RunRecord where
  /-- The identifier of the run. -/
  runId : RunId
  /-- When the run started. -/
  startedAt : Timestamp
  /-- What the run has found out. -/
  state : RunState
  deriving DecidableEq

end CassetteGate
