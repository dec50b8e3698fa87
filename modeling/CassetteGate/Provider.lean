/-!
# `Provider` — the generated provider under test

The provider is generated in three versions, each with a repository, a source directory and a
place in the cassette bucket of its own.
-/

namespace CassetteGate

/-- A version of the generated provider. -/
inductive ProviderVersion where
  /-- Generally available features only. -/
  | ga
  /-- Beta features too. -/
  | beta
  /-- The unpublished build. -/
  | privateBuild
  deriving DecidableEq, Inhabited

namespace ProviderVersion

/-- The name of the version. -/
def name : ProviderVersion → String
  | .ga => "ga"
  | .beta => "beta"
  | .privateBuild => "private"

/-- The top-level source directory of the generated repository. -/
def sourceDir : ProviderVersion → String
  | .ga => "google"
  | .beta => "google-beta"
  | .privateBuild => "google-private"

/-- What the version's fixtures are kept under in the cassette bucket. -/
def bucketPath : ProviderVersion → String
  | .ga => ""
  | .beta => "beta/"
  | .privateBuild => "private/"

/-- The name of the generated repository. -/
def repoName : ProviderVersion → String
  | .ga => "terraform-provider-google"
  | .beta => "terraform-provider-google-beta"
  | .privateBuild => "terraform-next"

/-- The module path of the generated repository. -/
def modulePath (v : ProviderVersion) : String := "github.com/hashicorp/" ++ v.repoName

/-- An ASCII letter in lower case; any other character is left as it is. -/
def lowerAscii (c : Char) : Char := if 'A' ≤ c ∧ c ≤ 'Z' then Char.ofNat (c.toNat + 32) else c

/-- The version that a name denotes, in upper or lower case ASCII letters. An unknown name is
    answered by its lower case form. -/
def ofName (s : String) : Except String ProviderVersion :=
  let s := String.ofList (s.toList.map lowerAscii)
  if s = "ga" then .ok .ga
  else if s = "beta" then .ok .beta
  else if s = "private" then .ok .privateBuild
  else .error s

/-- What is said about a name that denotes no version. -/
def unknownMessage (lowered : String) : String := "unknown provider version: " ++ lowered

/-- Every version is denoted by its own name. -/
theorem ofName_name (v : ProviderVersion) : ofName v.name = .ok v := by
  cases v <;> rfl

theorem name_injective {a b : ProviderVersion} (h : a.name = b.name) : a = b := by
  cases a <;> cases b <;> simp_all [name]

end ProviderVersion

end CassetteGate
