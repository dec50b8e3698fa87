import CassetteGate.Proofs.TestFlags

/-!
# `Proofs.Deadlines` — a test process gives up before it is killed

A test process has two deadlines. At its own, which it finds in its command line, it gives up by itself
and tells which tests were still running. At the other one it is killed, and tells nothing. So its own
has to come first.

The two are computed apart from each other. The first is written as a text, in minutes if there is no
rest and else in seconds; what it denotes is found by reading the text again, number and unit
(`spanSecs?_goTimeout`). The second is a sum of seconds, for which 64 bits may not be enough; there is
none in that case, and no process either (`processTimeout?_eq_none_iff`). In all other cases the process
has ten minutes left when its own deadline is over (`toNanos_processTimeout?`).

## Contents
- **`spanSecs?`**, **`spanSecs?_goTimeout`**: the deadline in the command line.
- **`processTimeout?_eq_none_iff`**, `toNanos_processTimeout?`: the deadline at which it is killed.
- **`Command.GivesUpFirst`**, **`Config.Deadlines`**, **`deadlines_ordered`**: both, for both kinds of
  test process.
-/

namespace CassetteGate

variable {config : Config}

/-! ## Spans of time as texts -/

/-- How many seconds a unit of time has: a minute or a second. -/
def unitSecs? : List Char → Option Nat
  | ['m'] => some 60
  | ['s'] => some 1
  | _ => none

/-- The seconds that a text denotes: decimal digits, and a unit behind them. -/
def spanSecs? (text : String) : Option Nat :=
  let (digits, unit) := Json.readDigits text.toList
  if digits.isEmpty then none
  else (unitSecs? unit).map fun secs => Json.digitsValue digits * secs

/-- A number in front of a unit is read as it was written. -/
theorem spanSecs?_number (n : Nat) (unit : String) {secs : Nat} (hends : Json.EndsNumber unit.toList)
    (hunit : unitSecs? unit.toList = some secs) : spanSecs? (toString n ++ unit) = some (n * secs) := by
  have hread : Json.readDigits (toString n ++ unit).toList = (Nat.toDigits 10 n, unit.toList) := by
    rw [String.toList_append, Nat.toString_eq_repr, Nat.toList_repr]
    exact Json.readDigits_append
      (fun d hd => Nat.isDigit_of_mem_toDigits (by decide) (by decide) hd) hends
  have hdigits : (Nat.toDigits 10 n).isEmpty = false := List.isEmpty_eq_false_iff.2 Nat.toDigits_ne_nil
  unfold spanSecs?
  simp only [hread, hdigits, hunit, Option.map_some, Json.digitsValue_toDigits, Bool.false_eq_true,
    if_false]

/-- **The deadline in the command line denotes the seconds of the configuration**, all of them. -/
theorem spanSecs?_goTimeout (config : Config) :
    spanSecs? config.goTimeout = some config.timeoutSecs.toNat := by
  unfold Config.goTimeout
  split
  · next hminutes =>
      rw [spanSecs?_number _ "m" (Json.endsNumber_cons (by decide)) rfl,
        Nat.div_mul_cancel (Nat.dvd_of_mod_eq_zero hminutes)]
  · rw [spanSecs?_number _ "s" (Json.endsNumber_cons (by decide)) rfl, Nat.mul_one]

/-! ## Spans of time as sums -/

theorem Duration.ofNanos?_eq_none_iff {n : Nat} :
    ofNanos? n = none ↔ UInt64.size ≤ n / nanosPerSec := by
  unfold ofNanos?
  split
  · next hfits => exact iff_of_false (Option.some_ne_none _) (Nat.not_le.2 hfits)
  · next hover => exact iff_of_true rfl (Nat.le_of_not_lt hover)

theorem Duration.toNanos_ofSecs (secs : UInt64) : (ofSecs secs).toNanos = secs.toNat * nanosPerSec :=
  Nat.add_zero _

/-- A process is killed ten minutes behind the deadline of its configuration. -/
theorem processTimeout?_eq (config : Config) :
    config.processTimeout? = Duration.ofNanos? ((config.timeoutSecs.toNat + 600) * nanosPerSec) := by
  unfold Config.processTimeout? Config.processGrace Duration.add?
  rw [Duration.toNanos_ofSecs, Duration.toNanos_ofSecs, ← Nat.add_mul]
  rfl

/-- **It cannot be said when it is killed exactly if the sum of seconds does not fit.** -/
theorem processTimeout?_eq_none_iff :
    config.processTimeout? = none ↔ UInt64.size - 601 < config.timeoutSecs.toNat := by
  have hpos : 0 < nanosPerSec := by decide
  have hsize : 601 ≤ UInt64.size := by decide
  rw [processTimeout?_eq, Duration.ofNanos?_eq_none_iff, Nat.mul_div_cancel _ hpos]
  omega

theorem toNanos_processTimeout? {deadline : Duration} (h : config.processTimeout? = some deadline) :
    deadline.toNanos = (config.timeoutSecs.toNat + 600) * nanosPerSec := by
  rw [processTimeout?_eq] at h
  exact Duration.toNat_nanos_ofNanos? h

/-! ## Test processes -/

/-- The deadline that a command finds in its command line comes before the one at which it is killed. -/
def Command.GivesUpFirst (c : Command) : Prop :=
  ∃ text secs deadline, c.flag? "timeout" = some text ∧ spanSecs? text = some secs ∧
    c.timeout = some deadline ∧ secs * nanosPerSec < deadline.toNanos

variable {program pattern : String} {mode : TestMode} {testDirs : List String} {cassetteDir : Path}
  {parallelism : UInt64}

theorem givesUpFirst_testCommand {deadline : Duration} (h : config.processTimeout? = some deadline) :
    (testCommand config program mode testDirs cassetteDir parallelism pattern
      deadline).GivesUpFirst := by
  have hlonger : config.timeoutSecs.toNat * nanosPerSec < deadline.toNanos := by
    rw [toNanos_processTimeout? h]
    exact Nat.mul_lt_mul_of_pos_right (Nat.lt_add_of_pos_right (by decide)) (by decide)
  exact ⟨_, _, deadline, flag?_timeout, spanSecs?_goTimeout config, rfl, hlonger⟩

/-- What a configuration makes of its deadline in a process that may not exist. -/
structure Config.Bounds (config : Config) (process : Option Command) : Prop where
  /-- There is no process exactly if it cannot be said when it is killed. -/
  none_iff : process = none ↔ UInt64.size - 601 < config.timeoutSecs.toNat
  /-- If there is one, it gives up first. -/
  givesUpFirst : ∀ command, process = some command → command.GivesUpFirst

theorem bounds_testCommand : config.Bounds (config.processTimeout?.map
    (testCommand config program mode testDirs cassetteDir parallelism pattern)) where
  none_iff := by rw [Option.map_eq_none_iff, processTimeout?_eq_none_iff]
  givesUpFirst := by
    intro command hcommand
    obtain ⟨deadline, hdeadline, rfl⟩ := Option.map_eq_some_iff.1 hcommand
    exact givesUpFirst_testCommand hdeadline

/-- The deadlines of all test processes of a configuration. -/
structure Config.Deadlines (config : Config) : Prop where
  /-- What is written in the command line denotes the seconds of the configuration. -/
  readBack : spanSecs? config.goTimeout = some config.timeoutSecs.toNat
  /-- It is not the deadline zero, which would be none, unless the configuration is refused. -/
  positive : config.validate = .ok () → ∃ secs, spanSecs? config.goTimeout = some secs ∧ 0 < secs
  /-- When a process is killed can be said unless the sum of seconds does not fit. -/
  overflow_iff : config.processTimeout? = none ↔ UInt64.size - 601 < config.timeoutSecs.toNat
  /-- All tests of some packages in one process. -/
  together : ∀ program mode testDirs cassetteDir,
    config.Bounds (packageRun? config program mode testDirs cassetteDir)
  /-- One test of one package. -/
  single : ∀ program mode testDir test cassetteDir,
    config.Bounds (singleTestRun? config program mode testDir test cassetteDir)

theorem timeoutSecs_ne_zero (h : config.validate = .ok ()) : config.timeoutSecs ≠ 0 := by
  intro hzero
  unfold Config.validate at h
  rw [if_pos hzero] at h
  split at h <;> cases h

/-- **Every test process gives up before it is killed**, whatever deadline is configured, unless there is
    none for want of a number that says when it is killed. -/
theorem deadlines_ordered (config : Config) : config.Deadlines where
  readBack := spanSecs?_goTimeout config
  positive := by
    intro hvalid
    refine ⟨_, spanSecs?_goTimeout config, Nat.pos_of_ne_zero fun hzero => ?_⟩
    exact timeoutSecs_ne_zero hvalid (UInt64.toNat_inj.1 hzero)
  overflow_iff := processTimeout?_eq_none_iff
  together := fun _ _ _ _ => bounds_testCommand
  single := fun _ _ _ _ _ => bounds_testCommand

/-- The configuration of a sample, with another deadline. -/
def configOfSecs (secs : UInt64) : Config :=
  { Config.make .ga ⟨⟨"/work"⟩, ⟨"/work/provider"⟩⟩ .empty with timeoutSecs := secs }

/-- At the last deadline for which there is a process, written in seconds, it still gives up first; one
    second more and there is none. -/
theorem deadlines_ordered_last :
    (configOfSecs (.ofNat (UInt64.size - 601))).validate = .ok () ∧
    (∃ command, singleTestRun? (configOfSecs (.ofNat (UInt64.size - 601))) "go" .recording
      "./google/services/compute" "TestAccDisk" ⟨"/work/cassettes/ga"⟩ = some command ∧
      command.flag? "timeout" = some "18446744073709551015s" ∧ command.GivesUpFirst) ∧
    singleTestRun? (configOfSecs (.ofNat (UInt64.size - 600))) "go" .recording
      "./google/services/compute" "TestAccDisk" ⟨"/work/cassettes/ga"⟩ = none := by
  have hlast := (deadlines_ordered (configOfSecs (.ofNat (UInt64.size - 601)))).single "go" .recording
    "./google/services/compute" "TestAccDisk" ⟨"/work/cassettes/ga"⟩
  have hnone := (deadlines_ordered (configOfSecs (.ofNat (UInt64.size - 600)))).single "go" .recording
    "./google/services/compute" "TestAccDisk" ⟨"/work/cassettes/ga"⟩
  refine ⟨by decide, ?_, hnone.none_iff.2 (by decide)⟩
  obtain ⟨command, hcommand⟩ := Option.ne_none_iff_exists'.1 fun h => absurd (hlast.none_iff.1 h) (by decide)
  obtain ⟨deadline, -, rfl⟩ := Option.map_eq_some_iff.1 hcommand
  have hwritten : (configOfSecs (.ofNat (UInt64.size - 601))).goTimeout = "18446744073709551015s" := by decide
  exact ⟨_, hcommand, flag?_timeout.trans (congrArg some hwritten), hlast.givesUpFirst _ hcommand⟩

end CassetteGate
