import CassetteGate.State

/-!
# `Event` — what a run says about its progress

Runs are followed by their events. An event is a message, or one of the steps in the life of a
run; it is either for information or a warning.

## Contents
- **`Event`**, **`Event.level`**.
- **`Event.phaseFinished`**: the event that goes with the end of a phase.
- **`Field`**, **`Event.fields`**: an event as named values.
-/

namespace CassetteGate

/-- How much an event matters. -/
inductive EventLevel where
  /-- For information. -/
  | info
  /-- Something did not go as it should. -/
  | warn
  deriving DecidableEq

/-- The name of a level. -/
def EventLevel.name : EventLevel → String
  | .info => "INFO"
  | .warn => "WARN"

/-- What a run says about its progress. -/
inductive Event where
  /-- The surface of a change is known. -/
  | surfaceComputed (fullSweep : Bool) (packages : Nat)
  /-- A phase begins; `tests` is how many tests a parallel phase is given. -/
  | phaseStarted (mode : TestMode) (parallel : Bool) (tests : Nat)
  /-- A phase has come to its end. -/
  | phaseCounted (mode : TestMode) (passed failed skipped : Nat) (crashed : Bool)
      (exitError : String)
  /-- A status was posted. -/
  | statusPosted (state : BuildState)
  /-- Fresh cassettes were published for the branch of the change. -/
  | cassettesUploaded (head : String)
  /-- The shared cassettes were copied to the backup of a day. -/
  | backedUp (date : String)
  /-- Something on the side failed, and the run goes on without it. -/
  | sideEffectFailed (action error : String)
  /-- The run has come to its end. -/
  | runFinished (terminal : Terminal) (passed : Bool)
  /-- A reason against passing. -/
  | violation (text : String)
  /-- Something worth mentioning. -/
  | note (text : String)
  /-- Something worth worrying about. -/
  | warning (text : String)
  deriving DecidableEq

/-- The value of a field of an event. -/
inductive Field where
  /-- A text. -/
  | text (s : String)
  /-- A number. -/
  | count (n : Nat)
  /-- A truth value. -/
  | flag (b : Bool)
  deriving DecidableEq

namespace Event

/-- The end of a phase. -/
def phaseFinished (mode : TestMode) (run : PhaseRun) : Event :=
  .phaseCounted mode run.result.passed.size run.result.failed.size run.result.skipped.size
    run.result.crashed (run.exitError.getD "")

/-- How much an event matters. -/
def level : Event → EventLevel
  | .sideEffectFailed .. => .warn
  | .warning .. => .warn
  | _ => .info

/-- The named values of an event. -/
def fields : Event → List (String × Field)
  | .surfaceComputed fullSweep packages =>
      [("event", .text "vcr.surface_computed"), ("full_sweep", .flag fullSweep),
       ("packages", .count packages)]
  | .phaseStarted mode parallel tests =>
      [("event", .text "vcr.phase_started"), ("mode", .text mode.upper),
       ("parallel", .flag parallel), ("tests", .count tests)]
  | .phaseCounted mode passed failed skipped crashed exitError =>
      [("event", .text "vcr.phase_finished"), ("mode", .text mode.upper), ("passed", .count passed),
       ("failed", .count failed), ("skipped", .count skipped), ("crashed", .flag crashed),
       ("exit_error", .text exitError)]
  | .statusPosted state =>
      [("event", .text "vcr.status_posted"), ("state", .text state.name)]
  | .cassettesUploaded head =>
      [("event", .text "vcr.cassettes_uploaded"), ("head", .text head)]
  | .backedUp date => [("date", .text date), ("message", .text "main cassettes backed up")]
  | .sideEffectFailed action error =>
      [("event", .text "vcr.side_effect_failed"), ("action", .text action), ("error", .text error)]
  | .runFinished terminal passed =>
      [("event", .text "vcr.run_finished"), ("terminal", .text terminal.title),
       ("passed", .flag passed)]
  | .violation text => [("violation", .text text), ("message", .text "VCR violation")]
  | .note text => [("message", .text text)]
  | .warning text => [("message", .text text)]

end Event

end CassetteGate
