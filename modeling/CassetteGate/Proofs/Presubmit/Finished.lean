import CassetteGate.Proofs.Presubmit.Course

/-!
# `Proofs.Presubmit.Finished` — the states that presubmit runs return

A run that had something to test, and was not ended by a failure, returns a state that tells how far
it got: what the phases found is there for exactly the phases that were run, and the terminal is that
of the last one. `Finished` lists these states, one case for each place where a run can come to its
end. What depends on the returned state alone, the verdict first of all, is read off these cases.

## Contents
- **`Finished`**, and **`Course.finished`**: the returned states.
- **`Finished.exists_terminal`**, **`Finished.finalVerdict_eq`**, **`Finished.exists_report`**: what
  all of them have in common.
- **`finished_of_runs`**: the same for runs.
-/

namespace CassetteGate

namespace Presubmit

open Pipeline

/-- The state of a run that came to its end. -/
inductive Finished (state : RunState) : Prop where
  /-- The provider crashed in the replay. -/
  | replayPanicked (replay : PhaseRun) (hr : state.replay = some replay)
      (hc : replay.result.crashed = true) (hrecord : state.record = none)
      (hconfirm : state.confirm = none) (ht : state.terminal = some .replayPanicked)
  /-- No test failed in the replay. -/
  | replayedClean (replay : PhaseRun) (hr : state.replay = some replay)
      (hc : replay.result.crashed = false) (hf : replay.result.failed.isEmpty = true)
      (hrecord : state.record = none) (hconfirm : state.confirm = none)
      (ht : state.terminal = some .replayedClean)
  /-- The provider crashed in the recording. -/
  | recordPanicked (replay record : PhaseRun) (hr : state.replay = some replay)
      (hc : replay.result.crashed = false) (hf : replay.result.failed.isEmpty = false)
      (hrecord : state.record = some record) (hcr : record.result.crashed = true)
      (hconfirm : state.confirm = none) (ht : state.terminal = some .recordPanicked)
  /-- No test passed in the recording. -/
  | unrecorded (replay record : PhaseRun) (hr : state.replay = some replay)
      (hc : replay.result.crashed = false) (hf : replay.result.failed.isEmpty = false)
      (hrecord : state.record = some record) (hcr : record.result.crashed = false)
      (hp : record.result.passed.isEmpty = true) (hconfirm : state.confirm = none)
      (ht : state.terminal = some .done)
  /-- What was recorded was published and replayed. -/
  | confirmed (replay record confirm : PhaseRun) (hr : state.replay = some replay)
      (hc : replay.result.crashed = false) (hf : replay.result.failed.isEmpty = false)
      (hrecord : state.record = some record) (hcr : record.result.crashed = false)
      (hp : record.result.passed.isEmpty = false) (hconfirm : state.confirm = some confirm)
      (ht : state.terminal = some .done)

variable {config : Config} {rules : SurfaceRules} {request : ChangeRequest} {dir : Path}
  {state state' : RunState} {ts t : Transcript}

/-! ## Work that is done ends in such a state -/

/-- What the phases behind the replay leave as it is. -/
theorem RecordWork.kept {failed : List String}
    (h : RecordWork config request dir state failed ts (.ok state')) :
    state'.surface = state.surface ∧ state'.testDirs = state.testDirs ∧
      state'.replay = state.replay ∧ state'.unexercised = state.unexercised := by
  cases h with
  | crashed record l hc => exact ⟨rfl, rfl, rfl, rfl⟩
  | nothing record l hc hp => exact ⟨rfl, rfl, rfl, rfl⟩
  | confirming record l hc hp hw =>
      cases hw with
      | confirmed confirm l => exact ⟨rfl, rfl, rfl, rfl⟩

theorem ReplayWork.finished {surface : ChangeSurface}
    (h : ReplayWork config rules request dir surface ts (.ok state)) : Finished state := by
  cases h with
  | crashed runs l hl hc => exact .replayPanicked _ rfl hc rfl rfl rfl
  | clean runs l hl hc hf => exact .replayedClean _ rfl hc hf rfl rfl rfl
  | recording runs l hl hc hf hw =>
      cases hw with
      | crashed record l hcr => exact .recordPanicked _ _ rfl hc hf rfl hcr rfl rfl
      | nothing record l hcr hp => exact .unrecorded _ _ rfl hc hf rfl hcr hp rfl rfl
      | confirming record l hcr hp hw =>
          cases hw with
          | confirmed confirm l => exact .confirmed _ _ _ rfl hc hf rfl hcr hp rfl rfl

/-! ## What these states have in common -/

namespace Finished

theorem exists_terminal (h : Finished state) :
    ∃ terminal, state.terminal = some terminal ∧ terminal ≠ .nothingToTest := by
  cases h with
  | replayPanicked replay hr hc hrecord hconfirm ht => exact ⟨_, ht, nofun⟩
  | replayedClean replay hr hc hf hrecord hconfirm ht => exact ⟨_, ht, nofun⟩
  | recordPanicked replay record hr hc hf hrecord hcr hconfirm ht => exact ⟨_, ht, nofun⟩
  | unrecorded replay record hr hc hf hrecord hcr hp hconfirm ht => exact ⟨_, ht, nofun⟩
  | confirmed replay record confirm hr hc hf hrecord hcr hp hconfirm ht => exact ⟨_, ht, nofun⟩

theorem terminal_ne (h : Finished state) : state.terminal ≠ some .nothingToTest := by
  obtain ⟨terminal, ht, hne⟩ := h.exists_terminal
  intro hnone
  exact hne (Option.some.inj (ht.symm.trans hnone))

/-- The verdict that is returned is the one that was posted. -/
theorem finalVerdict_eq (h : Finished state) : finalVerdict state = .of state := by
  unfold finalVerdict
  rw [if_neg h.terminal_ne]

/-- There is a report on the run. -/
theorem exists_report (h : Finished state) (ctx : ReportContext) :
    ∃ text, Report.report? state ctx = some text := by
  obtain ⟨terminal, ht, hne⟩ := h.exists_terminal
  unfold Report.report? Report.lines?
  rw [ht]
  cases terminal with
  | nothingToTest => exact absurd rfl hne
  | _ => exact ⟨_, rfl⟩

/-- Nothing was run behind a replay without failures. -/
theorem later_phases_eq_none (h : Finished state) {replay : PhaseRun}
    (hreplay : state.replay = some replay) (hnone : replay.result.failed.isEmpty = true) :
    state.record = none ∧ state.confirm = none := by
  cases h with
  | replayPanicked _ hr hc hrecord hconfirm ht => exact ⟨hrecord, hconfirm⟩
  | replayedClean _ hr hc hf hrecord hconfirm ht => exact ⟨hrecord, hconfirm⟩
  | recordPanicked _ record hr hc hf hrecord hcr hconfirm ht =>
      obtain rfl := Option.some.inj (hreplay.symm.trans hr)
      exact absurd (hf.symm.trans hnone) nofun
  | unrecorded _ record hr hc hf hrecord hcr hp hconfirm ht =>
      obtain rfl := Option.some.inj (hreplay.symm.trans hr)
      exact absurd (hf.symm.trans hnone) nofun
  | confirmed _ record confirm hr hc hf hrecord hcr hp hconfirm ht =>
      obtain rfl := Option.some.inj (hreplay.symm.trans hr)
      exact absurd (hf.symm.trans hnone) nofun

/-- A run that got as far as its last step had failures in the replay. -/
theorem replay_of_done (h : Finished state) (hdone : state.terminal = some .done) :
    ∃ replay, state.replay = some replay ∧ replay.result.crashed = false ∧
      replay.result.failed.isEmpty = false := by
  cases h with
  | replayPanicked replay hr hc hrecord hconfirm ht => exact absurd (ht.symm.trans hdone) nofun
  | replayedClean replay hr hc hf hrecord hconfirm ht => exact absurd (ht.symm.trans hdone) nofun
  | recordPanicked replay record hr hc hf hrecord hcr hconfirm ht =>
      exact absurd (ht.symm.trans hdone) nofun
  | unrecorded replay record hr hc hf hrecord hcr hp hconfirm ht => exact ⟨replay, hr, hc, hf⟩
  | confirmed replay record confirm hr hc hf hrecord hcr hp hconfirm ht => exact ⟨replay, hr, hc, hf⟩

end Finished

/-- A run that returns an outcome had nothing to test, or returns a finished state and the verdict
    on it. -/
theorem Course.finished_of_ok {o : Outcome} (h : Course config rules request t (.ok o)) :
    o.state.terminal = some .nothingToTest ∨
    (Finished o.state ∧ o.verdict = .of o.state) := by
  cases h with
  | idle hs => exact Or.inl rfl
  | finished hs dir a b c hw => exact Or.inr ⟨hw.finished, hw.finished.finalVerdict_eq⟩

/-- **A run that had something to test returns a finished state, and the verdict on it.** -/
theorem finished_of_runs {o : Outcome} (h : Runs (presubmit config rules request) t (.ok o))
    (ht : o.state.terminal ≠ some .nothingToTest) :
    Finished o.state ∧ o.verdict = .of o.state :=
  (course_presubmit h).finished_of_ok.resolve_left ht

end Presubmit

end CassetteGate
