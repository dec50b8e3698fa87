import CassetteGate.Json.Basic
import CassetteGate.Text.Substring

/-!
# `Json.Reader` — reading JSON text

A strict reader: one value with nothing but blanks around it, no raw control character inside a
string, no surrogate escape without its partner, at most 127 arrays and objects around one
another. Of two members with one name the later one counts.

## Contents
- **`readChars`**: the body of a string up to its closing quote.
- **`readNumber`**: the longest number a text starts with.
- **`readValue`**, with `readItems` and `readMembers` for what is inside brackets.
- **`parse?`**: the value that a whole text denotes.
-/

namespace CassetteGate.Json

open Text

/-- How deep arrays and objects may be nested. -/
def maxDepth : Nat := 127

/-- The text without the blanks that JSON allows between tokens. -/
def skipBlanks (cs : List Char) : List Char :=
  cs.dropWhile fun c => c == ' ' || c == '\t' || c == '\n' || c == '\r'

/-! ## Strings -/

/-- The value of a hexadecimal digit. -/
def hexDigit? (c : Char) : Option Nat :=
  if '0' ≤ c ∧ c ≤ '9' then some (c.toNat - '0'.toNat)
  else if 'a' ≤ c ∧ c ≤ 'f' then some (c.toNat - 'a'.toNat + 10)
  else if 'A' ≤ c ∧ c ≤ 'F' then some (c.toNat - 'A'.toNat + 10)
  else none

/-- The value of four hexadecimal digits. -/
def hexUnit? (a b c d : Char) : Option Nat := do
  return ((← hexDigit? a) * 16 + (← hexDigit? b)) * 256 + (← hexDigit? c) * 16 + (← hexDigit? d)

/-- The character that an escape letter stands for. -/
def escaped? (c : Char) : Option Char :=
  match c with
  | '"' => some '"'
  | '\\' => some '\\'
  | '/' => some '/'
  | 'b' => some '\x08'
  | 'f' => some '\x0c'
  | 'n' => some '\n'
  | 'r' => some '\r'
  | 't' => some '\t'
  | _ => none

/-- Whether a unit is the first half of a surrogate pair. -/
def isHighUnit (n : Nat) : Bool := 0xD800 ≤ n && n ≤ 0xDBFF

/-- Whether a unit is the second half of a surrogate pair. -/
def isLowUnit (n : Nat) : Bool := 0xDC00 ≤ n && n ≤ 0xDFFF

/-- Reads the body of a string; the answer is the characters and what follows the closing quote.
    `high` is the first half of a surrogate pair that still lacks its second. -/
def readChars (high : Option Nat) : List Char → Option (List Char × List Char)
  | [] => none
  | '"' :: rest => if high.isSome then none else some ([], rest)
  | '\\' :: 'u' :: a :: b :: c :: d :: rest =>
      match hexUnit? a b c d, high with
      | none, _ => none
      | some n, some h =>
          if isLowUnit n then
            (readChars none rest).map fun (cs, tail) =>
              (Char.ofNat (0x10000 + (h - 0xD800) * 0x400 + (n - 0xDC00)) :: cs, tail)
          else none
      | some n, none =>
          if isHighUnit n then readChars (some n) rest
          else if isLowUnit n then none
          else (readChars none rest).map fun (cs, tail) => (Char.ofNat n :: cs, tail)
  | '\\' :: e :: rest =>
      match escaped? e, high with
      | some c, none => (readChars none rest).map fun (cs, tail) => (c :: cs, tail)
      | _, _ => none
  | c :: rest =>
      if high.isSome || c == '\\' || c.toNat < 0x20 then none
      else (readChars none rest).map fun (cs, tail) => (c :: cs, tail)

/-! ## Numbers -/

/-- The digits a text starts with, and the rest. -/
def readDigits (cs : List Char) : List Char × List Char :=
  (cs.takeWhile Char.isDigit, cs.dropWhile Char.isDigit)

/-- The number that decimal digits denote. -/
def digitsValue (ds : List Char) : Nat :=
  ds.foldl (fun n d => 10 * n + (d.toNat - '0'.toNat)) 0

/-- The fraction of a number, `.` and digits, if the text starts with one. `none` is a fault. -/
def readFraction : List Char → Option (List Char × List Char)
  | '.' :: rest =>
      let (ds, tail) := readDigits rest
      if ds.isEmpty then none else some ('.' :: ds, tail)
  | cs => some ([], cs)

/-- The exponent of a number, if the text starts with one. `none` is a fault. -/
def readExponent : List Char → Option (List Char × List Char)
  | e :: rest =>
      if e == 'e' || e == 'E' then
        let (sign, more) := match rest with
          | '+' :: r => (['+'], r)
          | '-' :: r => (['-'], r)
          | r => ([], r)
        let (ds, tail) := readDigits more
        if ds.isEmpty then none else some (e :: sign ++ ds, tail)
      else some ([], e :: rest)
  | [] => some ([], [])

/-- The least number that double precision rounds to infinity. -/
def rangeEnd : Nat := (1 <<< 1024) - (1 <<< 970)

/-- The integer that an exponent, with its letter and its sign, denotes. -/
def exponentValue : List Char → Int
  | _ :: '-' :: ds => -(digitsValue ds : Int)
  | _ :: '+' :: ds => digitsValue ds
  | _ :: ds => digitsValue ds
  | [] => 0

/-- Whether digits with a decimal exponent are within the range of double precision. Exponents
    that decide by themselves are not computed with. -/
def inRange (ds : List Char) (exponent : Int) : Bool :=
  let n := digitsValue ds
  if n == 0 then true
  else
    match exponent with
    | .ofNat e => e ≤ 400 && n * Nat.pow 10 e < rangeEnd
    | .negSucc e => ds.length ≤ e || n < rangeEnd * Nat.pow 10 (e + 1)

/-- Reads a number without its sign. A number beyond double precision is a fault. -/
def readUnsigned (negative : Bool) (cs : List Char) : Option (Json × List Char) := do
  let (whole, rest) := readDigits cs
  if whole.isEmpty || (whole.length > 1 && whole.head? == some '0') then none
  let (fraction, rest) ← readFraction rest
  let (exponent, rest) ← readExponent rest
  guard (inRange (whole ++ fraction.drop 1) (exponentValue exponent - (fraction.length - 1 : Nat)))
  let n := digitsValue whole
  if fraction.isEmpty && exponent.isEmpty && !(negative && n == 0) then
    return (.int (if negative then -n else n), rest)
  else
    let sign := if negative then ['-'] else []
    return (.real (String.ofList (sign ++ whole ++ fraction ++ exponent)), rest)

/-- Reads a number. -/
def readNumber : List Char → Option (Json × List Char)
  | '-' :: rest => readUnsigned true rest
  | cs => readUnsigned false cs

/-! ## Values -/

mutual

/-- Reads a value at the start of a text. `depth` is how many more brackets may be opened; `fuel`
    bounds the number of calls and is never short in `parse?`. -/
def readValue : (fuel depth : Nat) → List Char → Option (Json × List Char)
  | 0, _, _ => none
  | fuel + 1, depth, cs =>
      match skipBlanks cs with
      | '"' :: rest => (readChars none rest).map fun (s, tail) => (.str (String.ofList s), tail)
      | '[' :: rest =>
          if depth = 0 then none
          else
            match skipBlanks rest with
            | ']' :: tail => some (.arr [], tail)
            | rest => (readItems fuel (depth - 1) rest).map fun (js, tail) => (.arr js, tail)
      | '{' :: rest =>
          if depth = 0 then none
          else
            match skipBlanks rest with
            | '}' :: tail => some (.obj [], tail)
            | rest => (readMembers fuel (depth - 1) [] rest).map fun (ms, tail) => (.obj ms, tail)
      | cs =>
          match after? ['n', 'u', 'l', 'l'] cs with
          | some tail => some (.null, tail)
          | none =>
              match after? ['t', 'r', 'u', 'e'] cs with
              | some tail => some (.bool true, tail)
              | none =>
                  match after? ['f', 'a', 'l', 's', 'e'] cs with
                  | some tail => some (.bool false, tail)
                  | none => readNumber cs

/-- Reads the items of an array from the first one to the closing bracket. -/
def readItems : (fuel depth : Nat) → List Char → Option (List Json × List Char)
  | 0, _, _ => none
  | fuel + 1, depth, cs =>
      match readValue fuel depth cs with
      | none => none
      | some (j, rest) =>
          match skipBlanks rest with
          | ',' :: rest => (readItems fuel depth rest).map fun (js, tail) => (j :: js, tail)
          | ']' :: tail => some ([j], tail)
          | _ => none

/-- Reads the members of an object from the first one to the closing brace, onto those read
    before. -/
def readMembers : (fuel depth : Nat) → List (String × Json) → List Char →
    Option (List (String × Json) × List Char)
  | 0, _, _, _ => none
  | fuel + 1, depth, before, cs =>
      match skipBlanks cs with
      | '"' :: rest =>
          match readChars none rest with
          | none => none
          | some (name, rest) =>
              match skipBlanks rest with
              | ':' :: rest =>
                  match readValue fuel depth rest with
                  | none => none
                  | some (j, rest) =>
                      let members := putMember (String.ofList name) j before
                      match skipBlanks rest with
                      | ',' :: rest => readMembers fuel depth members rest
                      | '}' :: tail => some (members, tail)
                      | _ => none
              | _ => none
      | _ => none

end

/-- The value that a text denotes, if it is one JSON value and nothing else. -/
def parse? (s : String) : Option Json :=
  let cs := s.toList
  match readValue (2 * cs.length + 4) maxDepth cs with
  | some (j, rest) => if (skipBlanks rest).isEmpty then some j else none
  | none => none

end CassetteGate.Json
