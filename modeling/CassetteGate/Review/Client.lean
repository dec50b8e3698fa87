import CassetteGate.Forms.Config
import CassetteGate.Host.Request
import CassetteGate.Pipeline.Collaborators
import CassetteGate.Review.Settings

/-!
# `Review.Client` — posting to the review platform

A request that is not answered, or is answered with a status that is worth another try, is sent
again after a wait, as often as the settings allow. Any other answer decides: a status of success
is success, and the rest is a refusal.

## Contents
- **`Attempt`**, **`RetryPolicy.judge`**: what one answer says.
- **`ReviewSettings.send`**: a request with its repetitions.
- **`ReviewSettings.postReport`**, **`ReviewSettings.postStatus`**.
-/

namespace CassetteGate

/-- What one answer says about a request. -/
inductive Attempt where
  /-- It is done. -/
  | accepted
  /-- It will not be done. -/
  | refused (fault : ServiceFault)
  /-- It may be done another time. -/
  | inconclusive (fault : ServiceFault)
  deriving DecidableEq

/-- The name of the review platform. -/
def reviewService : String := "GitHub"

/-- What an answer says; no answer at all is worth another try. -/
def RetryPolicy.judge (p : RetryPolicy) : Option WebReply → Attempt
  | none => .inconclusive .transport
  | some reply =>
      if 200 ≤ reply.status && reply.status < 300 then .accepted
      else if p.retryStatuses.contains reply.status then
        .inconclusive (.api reviewService reply.status reply.body)
      else .refused (.api reviewService reply.status reply.body)

namespace ReviewSettings

/-- Sends a value, and sends it again up to `left` times; `attempt` is how often it was sent
    before. -/
def sendAgain (s : ReviewSettings) (post : WebPost) :
    (left attempt : Nat) → HostProgram (Except ServiceFault Unit)
  | left, attempt => do
      match s.retry.judge (← Host.ask (.post post)) with
      | .accepted => return .ok ()
      | .refused e => return .error e
      | .inconclusive e =>
          match left with
          | 0 => return .error e
          | left + 1 =>
              Host.ask (.pause (s.retry.backoffMs attempt))
              sendAgain s post left (attempt + 1)

/-- Sends a value to an address. -/
def send (s : ReviewSettings) (url : String) (body : Json) :
    HostProgram (Except ServiceFault Unit) :=
  s.sendAgain ⟨url, s.token, body⟩ s.retry.maxRetries.toNat 0

/-- What is sent to comment on a pull request. -/
def commentBody (text : String) : Json := .obj [("body", toJson text)]

/-- What is sent to show a status on a commit. -/
def statusBody (check : String) (state : BuildState) (targetUrl : String) : Json :=
  .obj [("state", toJson state), ("target_url", toJson targetUrl), ("context", toJson check)]

/-- Comments on a pull request. -/
def postReport (s : ReviewSettings) (target : ReviewTarget) (text : String) :
    HostProgram (Except ServiceFault Unit) :=
  s.send (s.commentsUrl target.number) (commentBody text)

/-- Shows a status on a commit. -/
def postStatus (s : ReviewSettings) (post : StatusPost) :
    HostProgram (Except ServiceFault Unit) :=
  s.send (s.statusesUrl post.target.commitSha)
    (statusBody post.check post.state post.targetUrl)

end ReviewSettings

end CassetteGate
