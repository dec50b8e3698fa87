/-!
# `Mode` — reading cassettes or writing them

A test process either answers every request from its cassette or lets the request through to the
live service and records the exchange.
-/

namespace CassetteGate

/-- What a test process does with the requests of a test. -/
inductive TestMode where
  /-- Answers come from cassettes; nothing live is called. -/
  | replaying
  /-- Requests reach the live services and fresh cassettes are written. -/
  | recording
  deriving DecidableEq, Inhabited

namespace TestMode

/-- The name used in log files and bucket paths. -/
def lower : TestMode → String
  | .replaying => "replaying"
  | .recording => "recording"

/-- The name used in reports and handed to the test process. -/
def upper : TestMode → String
  | .replaying => "REPLAYING"
  | .recording => "RECORDING"

theorem lower_injective {a b : TestMode} (h : a.lower = b.lower) : a = b := by
  cases a <;> cases b <;> simp_all [lower]

end TestMode

end CassetteGate
