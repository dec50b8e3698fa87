/-!
# `Text.Split` — the pieces of a text between separators
-/

namespace CassetteGate.Text

/-- The pieces between the characters that separate; there is one more than there are of these. -/
def split (separates : Char → Bool) : List Char → List (List Char)
  | [] => [[]]
  | c :: cs =>
      match split separates cs with
      | [] => [[c]]
      | piece :: rest => if separates c then [] :: piece :: rest else (c :: piece) :: rest

example : split (· == '/') "a//b".toList = [['a'], [], ['b']] := by decide

end CassetteGate.Text
