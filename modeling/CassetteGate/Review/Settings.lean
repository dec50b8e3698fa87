/-!
# `Review.Settings` — how the review platform is reached

## Contents
- **`RetryPolicy`**: when a request is sent again, and how long to wait before
  (**`RetryPolicy.backoffMs`**).
- **`ReviewSettings`**: where the platform is and who asks, and the addresses of the two kinds of
  request.
-/

namespace CassetteGate

/-! ## Retries -/

/-- The largest number of milliseconds that a wait can be expressed in. -/
def maxMillis : Nat := UInt64.size - 1

/-- A number of milliseconds, cut down to what can be expressed. -/
def saturate (n : Nat) : Nat := min n maxMillis

/-- When a request is sent again. -/
structure RetryPolicy where
  /-- How often a request is sent again at most. -/
  maxRetries : UInt32
  /-- The first wait. -/
  initialBackoffMs : UInt64
  /-- The longest wait. -/
  maxBackoffMs : UInt64
  /-- The statuses that are worth another try. -/
  retryStatuses : List UInt16
  deriving DecidableEq

namespace RetryPolicy

/-- What is used when nothing else is said. -/
def standard : RetryPolicy := ⟨3, 5000, 60000, [408, 429, 500, 502, 503, 504]⟩

/-- How many times as long as the first wait the given one is, cut down to what can be expressed:
    the number doubles with each attempt. -/
def growth (attempt : Nat) : Nat := if attempt < 64 then 1 <<< attempt else maxMillis

/-- How long to wait after the given failed attempt, counted from 0: twice as long each time, up to
    the longest wait. -/
def backoffMs (p : RetryPolicy) (attempt : Nat) : Nat :=
  min (saturate (p.initialBackoffMs.toNat * growth attempt)) p.maxBackoffMs.toNat

theorem growth_eq_saturate (attempt : Nat) : growth attempt = saturate (1 <<< attempt) := by
  unfold growth saturate
  rw [Nat.one_shiftLeft]
  split
  · next h =>
      have hle : 2 ^ attempt ≤ 2 ^ 63 := Nat.pow_le_pow_right (by decide) (by omega)
      have hmax : 2 ^ 63 ≤ maxMillis := by decide
      exact (Nat.min_eq_left (Nat.le_trans hle hmax)).symm
  · next h =>
      have hle : 2 ^ 64 ≤ 2 ^ attempt := Nat.pow_le_pow_right (by decide) (by omega)
      have hmax : maxMillis ≤ 2 ^ 64 := by decide
      exact (Nat.min_eq_right (Nat.le_trans hmax hle)).symm

end RetryPolicy

/-! ## The platform -/

/-- Where the review platform is, and who asks. -/
structure ReviewSettings where
  /-- The address of the interface. -/
  apiUrl : String
  /-- The owner of the repository. -/
  owner : String
  /-- The repository. -/
  repo : String
  /-- What proves who asks. -/
  token : String
  /-- When a request is sent again. -/
  retry : RetryPolicy
  deriving DecidableEq

namespace ReviewSettings

/-- The settings for a token, with everything else at its default. -/
def ofToken (token : String) : ReviewSettings :=
  { token
    apiUrl := "https://api.github.com"
    owner := "GoogleCloudPlatform"
    repo := "magic-modules"
    retry := .standard }

/-- A text without the slashes at its end. -/
def dropTrailingSlashes (s : String) : String :=
  String.ofList (s.toList.reverse.dropWhile (· == '/')).reverse

/-- The settings with another address, slashes at its end aside. -/
def withApiUrl (s : ReviewSettings) (url : String) : ReviewSettings :=
  { s with apiUrl := dropTrailingSlashes url }

/-- What the addresses of a repository start with. -/
def repoUrl (s : ReviewSettings) : String := s.apiUrl ++ "/repos/" ++ s.owner ++ "/" ++ s.repo

/-- Where the comments on a pull request are posted. -/
def commentsUrl (s : ReviewSettings) (number : String) : String :=
  s.repoUrl ++ "/issues/" ++ number ++ "/comments"

/-- Where the statuses of a commit are posted. -/
def statusesUrl (s : ReviewSettings) (sha : String) : String := s.repoUrl ++ "/statuses/" ++ sha

end ReviewSettings

end CassetteGate
