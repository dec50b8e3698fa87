import CassetteGate.Host.Request
import CassetteGate.Release
import CassetteGate.Text.Blank
import CassetteGate.Text.Bytes

/-!
# `Host.Wire` — what goes over the web

A value that is posted becomes a request with a target and headers. The target is the part of the
address behind the server: dots are followed, a fragment is dropped, and characters that may not
stand in an address are written as the bytes of their UTF-8 form.

## Contents
- **`target?`**: the target of an address that can be sent to.
- **`WireRequest`**, and **`WireRequest.ofPost?`**: the request that a post makes, if it makes one.
-/

namespace CassetteGate

namespace Wire

/-! ## Characters of addresses -/

/-- An upper case hexadecimal digit. -/
def hexDigit (n : Nat) : Char := if n < 10 then Char.ofNat (48 + n) else Char.ofNat (55 + n)

/-- A byte with a percent sign before it. -/
def percent (b : UInt8) : List Char :=
  ['%', hexDigit (b.toNat / 16), hexDigit (b.toNat % 16)]

/-- A character as it stands in an address; `reserved` says which printable ones may not. -/
def escape (reserved : List Char) (c : Char) : List Char :=
  if c.toNat < 0x20 || 0x7F ≤ c.toNat || reserved.contains c then
    (String.utf8EncodeChar c).flatMap percent
  else [c]

/-- The characters that may not stand in a path. -/
def pathReserved : List Char := [' ', '"', '<', '>', '`', '#', '?', '\x7b', '\x7d']

/-- The characters that may not stand in a query. -/
def queryReserved : List Char := [' ', '"', '#', '<', '>', '\'']

/-! ## Paths -/

/-- Whether a character parts the pieces of a path; a backslash does so like a slash. -/
def partsPath (c : Char) : Bool := c == '/' || c == '\\'

/-- The spellings of a dot. -/
def dots : List (List Char) := [".", "%2e", "%2E"].map String.toList

/-- Whether a piece stands for the place that it is in. -/
def isHere (piece : List Char) : Bool := dots.contains piece

/-- Whether a piece stands for the place above. -/
def isAbove (piece : List Char) : Bool :=
  dots.any fun a => dots.any fun b => piece == a ++ b

/-- Whether a piece names a drive, above which there is nothing. -/
def isDrive : List Char → Bool
  | [letter, mark] => letter.isAlpha && (mark == ':' || mark == '|')
  | _ => false

/-- The place above the one that the pieces before lead to; the last of them comes first. -/
def above : List (List Char) → List (List Char)
  | [] => []
  | piece :: seen => if isDrive piece then piece :: seen else seen

/-- The pieces of a path with dots followed; `seen` are the ones before, the last one first. -/
def followDots (seen : List (List Char)) : List (List Char) → List (List Char)
  | [] => seen.reverse
  | piece :: rest =>
      let seen :=
        if isAbove piece then if rest.isEmpty then [] :: above seen else above seen
        else if isHere piece then if rest.isEmpty then [] :: seen else seen
        else piece.flatMap (escape pathReserved) :: seen
      followDots seen rest

/-- The path of a target. -/
def targetPath (path : List Char) : List Char :=
  (followDots [] (Text.split partsPath (path.drop 1))).flatMap fun piece => '/' :: piece

/-! ## Addresses -/

/-- Whether a character separates the server from what is behind it. -/
def endsServer (c : Char) : Bool := partsPath c || c == '?' || c == '#'

/-- Whether a character can stand in the name of a server. -/
def isServerChar (c : Char) : Bool := c.isAlphanum || c == '.' || c == '-'

/-- Whether some characters name a server, with or without a number behind a colon. The number
    has at most 16 bits. -/
def isServer (cs : List Char) : Bool :=
  let name := cs.takeWhile isServerChar
  let rest := cs.dropWhile isServerChar
  !name.isEmpty
    && match rest with
      | [] => true
      | ':' :: digits =>
          digits.all Char.isDigit
            && digits.foldl (fun n c => n * 10 + (c.toNat - 48)) 0 < UInt16.size
      | _ => false

/-- An address without what is never part of one: control characters and spaces around it, and
    line ends and tabs anywhere. -/
def tidy (url : String) : List Char :=
  let edge (c : Char) : Bool := c.toNat ≤ 0x20
  let cs := ((url.toList.dropWhile edge).reverse.dropWhile edge).reverse
  cs.filter fun c => c ≠ '\t' && c ≠ '\n' && c ≠ '\x0d'

/-- What follows the scheme of an address. -/
def afterScheme? (cs : List Char) : Option (List Char) :=
  (Text.after? "http://".toList cs).or (Text.after? "https://".toList cs)

/-- How many characters an address may have. -/
def maxAddressLength : Nat := 65534

/-- The target behind a server. -/
def targetOf (behind : List Char) : List Char :=
  let path := targetPath (behind.takeWhile (· ≠ '?'))
  match behind.dropWhile (· ≠ '?') with
  | _ :: query => path ++ '?' :: query.flatMap (escape queryReserved)
  | [] => path

/-- The target of an address. -/
def target? (url : String) : Option String := do
  let address := tidy url
  let rest ← afterScheme? address
  let server := rest.takeWhile fun c => !endsServer c
  guard (isServer server)
  let target := targetOf ((rest.dropWhile fun c => !endsServer c).takeWhile (· ≠ '#'))
  guard (address.length - rest.length + server.length + target.length ≤ maxAddressLength)
  return String.ofList target

/-! ## Headers -/

/-- Whether a text can be the value of a header. -/
def isHeaderValue (s : String) : Bool :=
  s.toList.all fun c => c == '\t' || (0x20 ≤ c.toNat && c.toNat ≠ 0x7F)

end Wire

/-- A request as it goes over the web. -/
structure WireRequest where
  /-- What is to be done. -/
  method : String
  /-- The target. -/
  target : String
  /-- The headers. -/
  headers : List (String × String)
  /-- The value that is sent. -/
  body : Json

/-- The request that a post makes. There is none if its address or its token cannot be sent. -/
def WireRequest.ofPost? (p : WebPost) : Option WireRequest := do
  let target ← Wire.target? p.url
  let proof := "Bearer " ++ p.token
  guard (Wire.isHeaderValue proof)
  return {
    method := "POST"
    target
    headers :=
      [("accept", "application/json"), ("authorization", Text.trimmed proof),
       ("content-type", "application/json"), ("user-agent", Release.userAgent)]
    body := p.body }

example : Wire.target? "http://h:1/api//x/../y z?q'r#f" = some "/api//y%20z?q%27r" := by
  decide +kernel

end CassetteGate
