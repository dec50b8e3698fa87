/-!
# `Text.Bytes` — text from the bytes that a process prints

A process may print any bytes. They are read as UTF-8, and every maximal part that cannot be the
start of a character is replaced by U+FFFD: a byte that starts nothing, or a character that breaks
off, up to the byte that does not continue it.

## Contents
- **`Unfinished`**: a character of which some bytes have been read.
- **`decode`**: the text of some bytes.
- **`encode`**: the bytes of a text.
- **`ofHex?`**: bytes from their hexadecimal digits.
-/

namespace CassetteGate.Text.Bytes

/-- A character of which some bytes have been read. -/
structure Unfinished where
  /-- The bits that have been read. -/
  bits : Nat
  /-- How many bytes are missing. -/
  missing : Nat
  /-- The least byte that can come next. -/
  least : Nat
  /-- The greatest byte that can come next. -/
  greatest : Nat
  deriving DecidableEq

/-- What stands for bytes that are no character. -/
def replacement : Char := '\ufffd'

/-- A character whose first byte is `b`, if more than that byte is needed. The second byte is
    restricted where it could make the character longer than necessary, a surrogate, or greater
    than the last code point. -/
def unfinished? (b : Nat) : Option Unfinished :=
  if 0xC2 ≤ b ∧ b ≤ 0xDF then some ⟨b - 0xC0, 1, 0x80, 0xBF⟩
  else if b = 0xE0 then some ⟨0, 2, 0xA0, 0xBF⟩
  else if b = 0xED then some ⟨0xD, 2, 0x80, 0x9F⟩
  else if 0xE1 ≤ b ∧ b ≤ 0xEF then some ⟨b - 0xE0, 2, 0x80, 0xBF⟩
  else if b = 0xF0 then some ⟨0, 3, 0x90, 0xBF⟩
  else if 0xF1 ≤ b ∧ b ≤ 0xF3 then some ⟨b - 0xF0, 3, 0x80, 0xBF⟩
  else if b = 0xF4 then some ⟨4, 3, 0x80, 0x8F⟩
  else none

/-- What a byte makes where a character starts: characters to write and what is left unfinished. -/
def start (b : Nat) : List Char × Option Unfinished :=
  if b < 0x80 then ([Char.ofNat b], none)
  else
    match unfinished? b with
    | some u => ([], some u)
    | none => ([replacement], none)

/-- The characters of some bytes, after those of an unfinished character. -/
def decodeFrom : Option Unfinished → List UInt8 → List Char
  | none, [] => []
  | some _, [] => [replacement]
  | none, b :: bs =>
      let (written, rest) := start b.toNat
      written ++ decodeFrom rest bs
  | some u, b :: bs =>
      if u.least ≤ b.toNat ∧ b.toNat ≤ u.greatest then
        let bits := u.bits * 64 + b.toNat % 64
        if u.missing ≤ 1 then Char.ofNat bits :: decodeFrom none bs
        else decodeFrom (some ⟨bits, u.missing - 1, 0x80, 0xBF⟩) bs
      else
        let (written, rest) := start b.toNat
        replacement :: written ++ decodeFrom rest bs

/-- The text of some bytes. -/
def decode (bs : List UInt8) : String := String.ofList (decodeFrom none bs)

/-- The bytes of a text. -/
def encode (s : String) : List UInt8 := s.toList.flatMap String.utf8EncodeChar

example : decode [0x41, 0xFF, 0x42] = "A\ufffdB" := by decide +kernel

example : decode [0xE2, 0x82, 0x41] = "\ufffdA" := by decide +kernel

example : decode [0xED, 0xA0, 0x80] = "\ufffd\ufffd\ufffd" := by decide +kernel

example : decode (encode "é€😀") = "é€😀" := by decide +kernel

/-- The value of a hexadecimal digit. -/
def hexValue? (c : Char) : Option Nat :=
  if '0' ≤ c ∧ c ≤ '9' then some (c.toNat - 48)
  else if 'a' ≤ c ∧ c ≤ 'f' then some (c.toNat - 87)
  else if 'A' ≤ c ∧ c ≤ 'F' then some (c.toNat - 55)
  else none

/-- The bytes that pairs of hexadecimal digits spell. -/
def ofHexDigits? : List Char → Option (List UInt8)
  | [] => some []
  | [_] => none
  | a :: b :: cs => do
      let high ← hexValue? a
      let low ← hexValue? b
      let rest ← ofHexDigits? cs
      return UInt8.ofNat (high * 16 + low) :: rest

/-- The bytes that a text of hexadecimal digits spells. -/
def ofHex? (s : String) : Option (List UInt8) := ofHexDigits? s.toList

end CassetteGate.Text.Bytes
