import CassetteGate.Invocation
import CassetteGate.Proofs.Json.Written

/-!
# `Proofs.TestFlags` — the flags of a test process

A test process reads its command line itself. A flag stands there in one argument, `-name=value`, or in
two, `-name` and behind it the value; and if it stands there more than once, the last time counts. The
flags of the runner come last, behind the packages, so what a process is told does not depend on how the
packages are called (`flagIn?_append`).

## Contents
- **`flagIn?`**, **`Command.flag?`**: the value of a flag.
- **`flag?_run`**, **`flag?_timeout`**: which tests a test process runs, and its own deadline.
-/

namespace CassetteGate

open Text

variable {name value arg : String} {next : Option String} {behind : List String}

/-! ## Flags -/

/-- The value that an argument gives to a flag; `next` is what follows it. -/
def flagAt? (name arg : String) (next : Option String) : Option String :=
  if arg = "-" ++ name then next
  else (after? ("-" ++ name ++ "=").toList arg.toList).map String.ofList

/-- The value of a flag in a command line. -/
def flagIn? (name : String) : List String → Option String
  | [] => none
  | arg :: rest => (flagIn? name rest).or (flagAt? name arg rest.head?)

/-- The value of a flag of a command. -/
def Command.flag? (c : Command) (name : String) : Option String := flagIn? name c.args

theorem flagIn?_append (front : List String) (h : flagIn? name behind = some value) :
    flagIn? name (front ++ behind) = some value := by
  induction front with
  | nil => exact h
  | cons arg front ih => rw [List.cons_append, flagIn?, ih, Option.some_or]

theorem flagIn?_cons (h : flagIn? name behind = none) :
    flagIn? name (arg :: behind) = flagAt? name arg behind.head? := by
  rw [flagIn?, h, Option.none_or]

/-- An argument that does not begin with the name of a flag says nothing about it. -/
theorem flagAt?_of_startsWith (h : startsWith arg ("-" ++ name) = false) :
    flagAt? name arg next = none := by
  have hnot (rest : String) : arg ≠ "-" ++ name ++ rest := fun hrest =>
    Bool.eq_false_iff.1 h (startsWith_iff.2 ⟨rest, hrest⟩)
  have hwhole : arg ≠ "-" ++ name := fun hwhole => hnot "" (hwhole.trans String.append_empty.symm)
  have hfront : after? ("-" ++ name ++ "=").toList arg.toList = none := by
    refine Option.eq_none_iff_forall_ne_some.2 fun rest hrest => hnot ("=" ++ String.ofList rest) ?_
    rw [← String.toList_inj, after?_eq_some_iff.1 hrest, ← String.append_assoc,
      String.toList_append (t := String.ofList rest), String.toList_ofList]
  unfold flagAt?
  rw [if_neg hwhole, hfront, Option.map_none]

/-- A value may stand in the same argument as the name. -/
theorem flagAt?_assigned (name value : String) (next : Option String) :
    flagAt? name ("-" ++ name ++ "=" ++ value) next = some value := by
  have hne : "-" ++ name ++ "=" ++ value ≠ "-" ++ name := by
    intro hsame
    have hlength := congrArg String.length hsame
    simp only [String.length_append] at hlength
    have hequals : "=".length = 1 := rfl
    omega
  unfold flagAt?
  rw [if_neg hne, String.toList_append (t := value), after?_append, Option.map_some,
    String.ofList_toList]

theorem flagIn?_cons_of_startsWith (h : startsWith arg ("-" ++ name) = false) :
    flagIn? name (arg :: behind) = flagIn? name behind := by
  rw [flagIn?, flagAt?_of_startsWith h, Option.or_none]

/-! ## Test processes -/

/-- Texts that differ in a character do not begin with each other. -/
theorem startsWith_of_ne {text lead : String} {i : Nat} {c d : Char} (htext : text.toList[i]? = some c)
    (hlead : lead.toList[i]? = some d) (hne : c ≠ d) : startsWith text lead = false := by
  refine Bool.eq_false_iff.2 fun hstarts => ?_
  obtain ⟨rest, rfl⟩ := startsWith_iff.1 hstarts
  obtain ⟨hi, -⟩ := List.getElem?_eq_some_iff.1 hlead
  rw [String.toList_append, List.getElem?_append_left hi, hlead] at htext
  exact hne (Option.some.inj htext).symm

/-- The deadline that a process is given itself starts with a digit. -/
theorem exists_goTimeout (config : Config) :
    ∃ d tail, config.goTimeout.toList = d :: tail ∧ d.isDigit = true := by
  unfold Config.goTimeout
  split
  · obtain ⟨d, ds, hdigits, hd⟩ := Json.exists_toDigits (config.timeoutSecs.toNat / 60)
    refine ⟨d, ds ++ ['m'], ?_, hd⟩
    rw [String.toList_append, Nat.toString_eq_repr, Nat.toList_repr, hdigits]
    rfl
  · obtain ⟨d, ds, hdigits, hd⟩ := Json.exists_toDigits config.timeoutSecs.toNat
    refine ⟨d, ds ++ ['s'], ?_, hd⟩
    rw [String.toList_append, Nat.toString_eq_repr, Nat.toList_repr, hdigits]
    rfl

/-- It is no flag. -/
theorem flagIn?_goTimeout (config : Config) :
    flagIn? name (config.goTimeout :: behind) = flagIn? name behind := by
  obtain ⟨d, tail, hdigit, hd⟩ := exists_goTimeout config
  refine flagIn?_cons_of_startsWith (startsWith_of_ne (i := 0) (c := d) (d := '-') ?_ ?_ ?_)
  · rw [hdigit]
    rfl
  · rw [String.toList_append]
    rfl
  · rintro rfl
    cases hd

/-- What is said about the linker, and about checks, says nothing of a flag that begins differently. -/
theorem flagIn?_otherFlags {version : ProviderVersion} {d : Char} (hname : name.toList.head? = some d)
    (hlink : d ≠ 'l') (hvet : d ≠ 'v') :
    flagIn? name ["-ldflags=-X=" ++ version.modulePath ++ "/version.ProviderVersion=acc", "-vet=off"]
      = none := by
  have hsecond : ("-" ++ name).toList[1]? = some d := by
    rw [String.toList_append, ← hname]
    exact List.head?_eq_getElem?.symm
  rw [flagIn?_cons_of_startsWith, flagIn?_cons_of_startsWith]
  · rfl
  · exact startsWith_of_ne (c := 'v') rfl hsecond hvet.symm
  · refine startsWith_of_ne (c := 'l') ?_ hsecond hlink.symm
    rw [String.toList_append, String.toList_append]
    rfl

variable {program pattern : String} {mode : TestMode} {testDirs : List String} {cassetteDir : Path}
  {parallelism : UInt64} {deadline : Duration}

/-- **A test process runs the tests that match its pattern.** -/
theorem flag?_run : (testCommand config program mode testDirs cassetteDir parallelism pattern
    deadline).flag? "run" = some pattern := by
  have hbehind : flagIn? "run" ["-timeout", config.goTimeout,
      "-ldflags=-X=" ++ config.version.modulePath ++ "/version.ProviderVersion=acc", "-vet=off"]
      = none := by
    rw [flagIn?_cons_of_startsWith (startsWith_of_ne (i := 1) (c := 't') (d := 'r') rfl rfl (by decide)),
      flagIn?_goTimeout]
    exact flagIn?_otherFlags (d := 'r') rfl (by decide) (by decide)
  refine flagIn?_append ("test" :: testDirs) (flagIn?_append
    ["-parallel", toString parallelism.toNat, "-v"] ?_)
  rw [flagIn?_cons hbehind]
  exact flagAt?_assigned "run" pattern _

/-- **It is given the deadline of its configuration.** -/
theorem flag?_timeout : (testCommand config program mode testDirs cassetteDir parallelism pattern
    deadline).flag? "timeout" = some config.goTimeout := by
  refine flagIn?_append ("test" :: testDirs) (flagIn?_append
    ["-parallel", toString parallelism.toNat, "-v", "-run=" ++ pattern] ?_)
  rw [flagIn?_cons]
  · exact if_pos rfl
  · rw [flagIn?_goTimeout]
    exact flagIn?_otherFlags (d := 't') rfl (by decide) (by decide)

end CassetteGate
