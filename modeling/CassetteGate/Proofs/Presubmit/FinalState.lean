import CassetteGate.Proofs.Presubmit.CallOrder
import CassetteGate.Proofs.Presubmit.Finished

/-!
# `Proofs.Presubmit.FinalState` — what the state that a run returns says of the run

The state of a run is filled in piece by piece, by every phase that is reached, on a way with five
exits. The report, the verdict and whoever starts a run go by combinations of these pieces: that fresh
cassettes were published says that there is a replay of them, and the terminal says which phases there
are. So the pieces have to fit together, and they have to be what the collaborators answered.

Two facts carry this. Which phases there are, and how they came out, determines the terminal
(`RunState.EndsAt.eq_lastEnd`), so the five ways to end exclude each other. And a returned state
accounts for every call to the runner and the cassette store, in order and with its answer
(`ReplayWork.testCalls_eq`): the last mode and the merged replay are read off that list.

## Contents
- **`RunState.EndsAt`**: the phases that lie behind each terminal.
- **`laterCalls`**, **`ReplayWork.testCalls_eq`**: the calls that a state accounts for.
- **`Consistent`**, and **`presubmit_consistent`**: returned states.
-/

namespace CassetteGate

/-! ## Ends -/

namespace RunState

variable {s : RunState} {e : Terminal}

/-- The phases that lie behind a run that came to its end there, and how they came out. -/
def EndsAt (s : RunState) : Terminal → Prop
  | .nothingToTest =>
      s.surface.isEmpty = true ∧ s.replay = none ∧ s.record = none ∧ s.confirm = none
  | .replayPanicked =>
      ∃ replay, s.replay = some replay ∧ replay.result.crashed = true ∧
        s.record = none ∧ s.confirm = none
  | .replayedClean =>
      ∃ replay, s.replay = some replay ∧ replay.result.crashed = false ∧
        replay.result.failed.isEmpty = true ∧ s.record = none ∧ s.confirm = none
  | .recordPanicked =>
      ∃ replay record, s.replay = some replay ∧ replay.result.crashed = false ∧
        replay.result.failed.isEmpty = false ∧ s.record = some record ∧
        record.result.crashed = true ∧ s.confirm = none ∧ s.cassettesUploaded = false
  | .done =>
      ∃ replay record, s.replay = some replay ∧ replay.result.crashed = false ∧
        replay.result.failed.isEmpty = false ∧ s.record = some record ∧
        record.result.crashed = false

/-- Where the phases of a run lead to: the first of them that crashed or left nothing to do. -/
def lastEnd (s : RunState) : Terminal :=
  match s.replay with
  | none => .nothingToTest
  | some replay =>
      if replay.result.crashed then .replayPanicked
      else if replay.result.failed.isEmpty then .replayedClean
      else if s.record.any (·.result.crashed) then .recordPanicked
      else .done

/-- **The phases determine the end.** -/
theorem EndsAt.eq_lastEnd (h : s.EndsAt e) : e = s.lastEnd := by
  unfold lastEnd
  cases e with
  | nothingToTest =>
      obtain ⟨-, hr, -, -⟩ := h
      rw [hr]
  | replayPanicked =>
      obtain ⟨replay, hr, hc, -, -⟩ := h
      simp only [hr, hc, if_true]
  | replayedClean =>
      obtain ⟨replay, hr, hc, hf, -, -⟩ := h
      simp only [hr, hc, hf, Bool.false_eq_true, if_false, if_true]
  | recordPanicked =>
      obtain ⟨replay, record, hr, hc, hf, hrecord, hcr, -, -⟩ := h
      simp only [hr, hc, hf, hrecord, Option.any_some, hcr, Bool.false_eq_true, if_false, if_true]
  | done =>
      obtain ⟨replay, record, hr, hc, hf, hrecord, hcr⟩ := h
      simp only [hr, hc, hf, hrecord, Option.any_some, hcr, Bool.false_eq_true, if_false]

end RunState

namespace Presubmit

open Pipeline

variable {config : Config} {rules : SurfaceRules} {request : ChangeRequest} {dir : Path}
  {surface : ChangeSurface} {state state' : RunState} {ts t : Transcript}

/-! ## The calls that a state accounts for -/

/-- The calls behind the replay that a returned state accounts for: the recording, and the upload and
    the replay of what was recorded. -/
def laterCalls (config : Config) (request : ChangeRequest) (dir : Path) (state : RunState) :
    Transcript :=
  match state.replay, state.record with
  | some replay, some record =>
      ⟨.runEach (phaseOptions config .recording dir state.testDirs replay.result.failed.toList),
        .ok record⟩
      :: match state.confirm with
        | some confirm =>
            confirmPlan config request dir state.testDirs record.result.passed.toList confirm
        | none => []
  | _, _ => []

/-- A recording that is gone through is accounted for. -/
theorem RecordWork.testCalls_eq {replay : PhaseRun} (hr : state.replay = some replay)
    (hconfirm : state.confirm = none)
    (h : RecordWork config request dir state replay.result.failed.toList ts (.ok state')) :
    ts.testCalls = laterCalls config request dir state' := by
  unfold laterCalls
  cases h with
  | crashed record l hc =>
      rw [Transcript.testCalls_append, testCalls_recordPart]
      simp only [recordedState, hr, hconfirm]
      rfl
  | nothing record l hc hp =>
      rw [Transcript.testCalls_append, testCalls_recordPart]
      simp only [recordedState, hr, hconfirm]
      rfl
  | confirming record l hc hp hw =>
      cases hw with
      | confirmed confirm l =>
          rw [Transcript.testCalls_append, testCalls_recordPart]
          simp [confirmedState, recordedState, hr, confirmPart, confirmPlan, publishRequest]

/-- **A returned state accounts for all calls**: those that replay the surface, whose answers it holds
    merged, and the later ones. -/
theorem ReplayWork.testCalls_eq
    (h : ReplayWork config rules request dir surface ts (.ok state)) :
    ∃ runs, runs.length = (replayOptions config rules surface dir).length ∧
      state.replay = some (mergedReplay surface runs) ∧
      ts.testCalls = ran (replayOptions config rules surface dir) runs
        ++ laterCalls config request dir state := by
  cases h with
  | crashed runs l hl hc =>
      refine ⟨runs, hl, rfl, ?_⟩
      rw [Transcript.testCalls_append, testCalls_replayPart]
      rfl
  | clean runs l hl hc hf =>
      refine ⟨runs, hl, rfl, ?_⟩
      rw [testCalls_replayPart]
      exact (List.append_nil _).symm
  | recording runs l hl hc hf hw =>
      refine ⟨runs, hl, hw.kept.2.2.1, ?_⟩
      rw [Transcript.testCalls_append, testCalls_replayPart, hw.testCalls_eq rfl rfl]

theorem packageCalls_laterCalls : (laterCalls config request dir state).packageCalls = [] := by
  unfold laterCalls
  split
  · cases state.confirm <;> rfl
  · rfl

/-- On a full sweep there is a single run, and it is not merged with anything. -/
theorem mergedReplay_eq {runs : List PhaseRun}
    (hl : runs.length = (replayOptions config rules surface dir).length) :
    if surface.fullSweep then runs = [mergedReplay surface runs]
    else mergedReplay surface runs = .merge runs := by
  unfold replayOptions at hl
  unfold mergedReplay
  by_cases hs : surface.fullSweep = true
  · simp only [if_pos hs] at hl
    obtain ⟨run, rfl⟩ := List.length_eq_one_iff.1 hl
    rw [if_pos hs, if_pos hs]
    rfl
  · rw [if_neg hs, if_neg hs]

/-! ## What a state says of its run -/

theorem ReplayWork.surface_eq (h : ReplayWork config rules request dir surface ts (.ok state)) :
    state.surface = surface ∧ state.testDirs = replayDirs rules surface := by
  cases h with
  | crashed runs l hl hc => exact ⟨rfl, rfl⟩
  | clean runs l hl hc hf => exact ⟨rfl, rfl⟩
  | recording runs l hl hc hf hw => exact ⟨hw.kept.1, hw.kept.2.1⟩

/-- Added tests are looked for unless the provider crashed in the replay. -/
theorem ReplayWork.unexercised_eq
    (h : ReplayWork config rules request dir surface ts (.ok state)) :
    (state.terminal = some .replayPanicked ∧ state.unexercised = .none) ∨
    (state.terminal ≠ some .replayPanicked ∧ ∀ replay, state.replay = some replay →
      state.unexercised = .of request.gaDiff request.betaDiff replay.result) := by
  cases h with
  | crashed runs l hl hc => exact Or.inl ⟨rfl, rfl⟩
  | clean runs l hl hc hf =>
      refine Or.inr ⟨nofun, fun replay hr => ?_⟩
      rw [← Option.some.inj hr]
      rfl
  | recording runs l hl hc hf hw =>
      obtain ⟨-, -, hreplay, hadded⟩ := hw.kept
      refine Or.inr ⟨?_, fun replay hr => ?_⟩
      · cases hw with
        | crashed record l hcr => exact nofun
        | nothing record l hcr hp => exact nofun
        | confirming record l hcr hp hw =>
            cases hw with
            | confirmed confirm l => exact nofun
      · rw [hreplay] at hr
        rw [hadded, ← Option.some.inj hr]
        rfl

/-- Cassettes were published exactly if there is a replay of them. -/
theorem ReplayWork.confirm_isSome
    (h : ReplayWork config rules request dir surface ts (.ok state)) :
    state.confirm.isSome = state.cassettesUploaded := by
  cases h with
  | crashed runs l hl hc => rfl
  | clean runs l hl hc hf => rfl
  | recording runs l hl hc hf hw =>
      cases hw with
      | crashed record l hcr => rfl
      | nothing record l hcr hp => rfl
      | confirming record l hcr hp hw =>
          cases hw with
          | confirmed confirm l => rfl

/-- A finished state has a replay of fresh cassettes exactly if something was recorded. -/
theorem Finished.confirm_isSome_iff (h : Finished state) :
    state.confirm.isSome = true ↔
      state.terminal = some .done ∧
      ∃ record, state.record = some record ∧ record.result.passed.isEmpty = false := by
  cases h with
  | replayPanicked replay hr hc hrecord hconfirm ht => simp [hconfirm, ht]
  | replayedClean replay hr hc hf hrecord hconfirm ht => simp [hconfirm, ht]
  | recordPanicked replay record hr hc hf hrecord hcr hconfirm ht => simp [hconfirm, ht]
  | unrecorded replay record hr hc hf hrecord hcr hp hconfirm ht => simp [hconfirm, hrecord, hp]
  | confirmed replay record confirm hr hc hf hrecord hcr hp hconfirm ht =>
      simp [hconfirm, ht, hrecord, hp]

/-- The terminal of a finished state is the one that its phases lead to. -/
theorem Finished.endsAt (h : Finished state) (hpublished : state.confirm.isSome = state.cassettesUploaded) :
    ∃ e, state.terminal = some e ∧ e ≠ .nothingToTest ∧ state.EndsAt e := by
  cases h with
  | replayPanicked replay hr hc hrecord hconfirm ht =>
      exact ⟨_, ht, nofun, replay, hr, hc, hrecord, hconfirm⟩
  | replayedClean replay hr hc hf hrecord hconfirm ht =>
      exact ⟨_, ht, nofun, replay, hr, hc, hf, hrecord, hconfirm⟩
  | recordPanicked replay record hr hc hf hrecord hcr hconfirm ht =>
      rw [hconfirm] at hpublished
      exact ⟨_, ht, nofun, replay, record, hr, hc, hf, hrecord, hcr, hconfirm, hpublished.symm⟩
  | unrecorded replay record hr hc hf hrecord hcr hp hconfirm ht =>
      exact ⟨_, ht, nofun, replay, record, hr, hc, hf, hrecord, hcr⟩
  | confirmed replay record confirm hr hc hf hrecord hcr hp hconfirm ht =>
      exact ⟨_, ht, nofun, replay, record, hr, hc, hf, hrecord, hcr⟩

/-! ## The last mode -/

/-- The mode of a returned state is that of the last call to the runner. -/
theorem ReplayWork.mode_eq (hs : surface.isEmpty = false)
    (h : ReplayWork config rules request dir surface ts (.ok state)) :
    ∃ call, ts.runnerCalls.getLast? = some call ∧ call.options.mode = state.mode := by
  obtain ⟨runs, hl, -, hcalls⟩ := h.testCalls_eq
  have hlast : ts.runnerCalls.getLast?
      = (laterCalls config request dir state).runnerCalls.getLast?.or
        ((replayOptions config rules surface dir).map fun o => RunnerCall.mk false o).getLast? := by
    rw [← Transcript.runnerCalls_testCalls, hcalls, Transcript.runnerCalls_append, runnerCalls_ran hl,
      List.getLast?_append]
  -- if there are no later calls, the last one replays, and there is one
  have hne : replayOptions config rules surface dir ≠ [] := replayOptions_ne_nil hs
  have hmode := mode_of_mem_replayOptions (List.getLast_mem hne)
  rw [List.getLast?_map, List.getLast?_eq_some_getLast hne] at hlast
  rw [hlast]
  cases h with
  | crashed runs l hl hc => exact ⟨_, rfl, hmode⟩
  | clean runs l hl hc hf => exact ⟨_, rfl, hmode⟩
  | recording runs l hl hc hf hw =>
      cases hw with
      | crashed record l hcr => exact ⟨_, rfl, rfl⟩
      | nothing record l hcr hp => exact ⟨_, rfl, rfl⟩
      | confirming record l hcr hp hw =>
          cases hw with
          | confirmed confirm l => exact ⟨_, rfl, rfl⟩

/-! ## Returned states -/

/-- What is kept to by the outcome of a run with the transcript `t`. -/
structure Consistent (rules : SurfaceRules) (request : ChangeRequest) (t : Transcript) (o : Outcome) :
    Prop where
  /-- The surface is that of the change, and the directories are its packages. -/
  surface : o.state.surface = rules.surface request.changedFiles ∧
    o.state.testDirs = replayDirs rules o.state.surface
  /-- The run came to its end somewhere, and its phases lead there and nowhere else. -/
  ended : ∃ e, o.state.terminal = some e ∧ o.state.EndsAt e ∧ ∀ e', o.state.EndsAt e' → e' = e
  /-- There is no report if there was nothing to test, and only then. -/
  reported : o.report = none ↔ o.state.terminal = some .nothingToTest
  /-- There is a replay of fresh cassettes exactly if they were published. -/
  confirmed : o.state.confirm.isSome = true ↔ o.state.cassettesUploaded = true
  /-- They were published exactly if the run got to its last step and recorded something. -/
  published : o.state.cassettesUploaded = true ↔
    o.state.terminal = some .done ∧
    ∃ record, o.state.record = some record ∧ record.result.passed.isEmpty = false
  /-- The runner was called unless there was nothing to test. -/
  called : t.runnerCalls = [] ↔ o.state.terminal = some .nothingToTest
  /-- The packages were run one by one, or all at once on a full sweep. -/
  tested : o.state.terminal ≠ some .nothingToTest →
    t.packageCalls.map (·.1.testDirs)
      = if o.state.surface.fullSweep then [[]] else o.state.testDirs.map ([·])
  /-- The mode is that of the last call to the runner. -/
  mode : ∀ call, t.runnerCalls.getLast? = some call → o.state.mode = call.options.mode
  /-- The replay is the only run on a full sweep, and else what the runs of the packages make. -/
  replayed : ∀ replay, o.state.replay = some replay →
    ∃ runs, t.packageCalls.map Prod.snd = runs.map .ok ∧
      if o.state.surface.fullSweep then runs = [replay] else replay = .merge runs
  /-- The added tests are those that the replay does not vouch for. -/
  unexercised : o.state.terminal ≠ some .nothingToTest → o.state.terminal ≠ some .replayPanicked →
    ∃ replay, o.state.replay = some replay ∧
      o.state.unexercised = .of request.gaDiff request.betaDiff replay.result
  /-- They are not looked for if nothing was replayed, or the provider crashed in the replay. -/
  unexamined : o.state.terminal = some .nothingToTest ∨ o.state.terminal = some .replayPanicked →
    o.state.unexercised = .none

/-- A run with nothing to test keeps to it. -/
theorem consistent_idle (hs : (rules.surface request.changedFiles).isEmpty = true)
    (hcalls : t.runnerCalls = []) :
    Consistent rules request t
      { state :=
          { RunState.start (rules.surface request.changedFiles) with
            terminal := some .nothingToTest }
        verdict := .nothingToTest
        report := none } := by
  refine ⟨⟨rfl, (replayDirs_of_isEmpty hs).symm⟩, ⟨_, rfl, ⟨hs, rfl, rfl, rfl⟩, fun e' he' => he'.eq_lastEnd⟩,
    iff_of_true rfl rfl, iff_of_false nofun nofun, ?published, iff_of_true hcalls rfl,
    fun hne => absurd rfl hne, ?mode, nofun, fun hne => absurd rfl hne, fun _ => rfl⟩
  case published => exact iff_of_false nofun fun hdone => nomatch hdone.1
  case mode =>
    intro call hcall
    rw [hcalls] at hcall
    cases hcall

/-- A run that was done keeps to it. -/
theorem consistent_finished (hs : (rules.surface request.changedFiles).isEmpty = false)
    (hcalls : t.testCalls = ⟨fetchRequest config request, .ok dir⟩ :: ts.testCalls)
    {text : String}
    (hw : ReplayWork config rules request dir (rules.surface request.changedFiles) ts (.ok state)) :
    Consistent rules request t
      { state, verdict := finalVerdict state, report := some text } := by
  obtain ⟨hsurface, hdirs⟩ := hw.surface_eq
  obtain ⟨e, he, hne, hends⟩ := hw.finished.endsAt hw.confirm_isSome
  obtain ⟨runs, hl, hreplay, hruns⟩ := hw.testCalls_eq
  have hrunner : t.runnerCalls = ts.runnerCalls := by
    rw [← Transcript.runnerCalls_testCalls, hcalls, ← ts.runnerCalls_testCalls]
    rfl
  have hpackages : t.packageCalls = (ran (replayOptions config rules
      (rules.surface request.changedFiles) dir) runs).packageCalls := by
    rw [← Transcript.packageCalls_testCalls, hcalls, hruns]
    show (ran _ runs ++ laterCalls config request dir state).packageCalls = _
    rw [Transcript.packageCalls_append, packageCalls_laterCalls, List.append_nil]
  obtain ⟨last, hlast, hmode⟩ := hw.mode_eq hs
  have hidle : state.terminal ≠ some .nothingToTest := hw.finished.terminal_ne
  refine ⟨⟨hsurface, hsurface ▸ hdirs⟩, ⟨e, he, hends, fun e' he' => ?ended⟩,
    iff_of_false nofun hidle, by rw [hw.confirm_isSome], ?published, iff_of_false ?called hidle,
    ?tested, ?mode, ?replayed, ?unexercised, ?unexamined⟩
  case ended => rw [he'.eq_lastEnd, hends.eq_lastEnd]
  case published =>
    rw [← hw.confirm_isSome]
    exact hw.finished.confirm_isSome_iff
  case called =>
    intro hnone
    rw [← hrunner, hnone] at hlast
    cases hlast
  case tested =>
    intro _
    show (t.packageCalls.map ((·.testDirs) ∘ Prod.fst)) = _
    rw [← List.map_map, hpackages, options_packageCalls_ran hl, testDirs_replayOptions, hsurface, hdirs]
  case mode =>
    intro call hcall
    rw [hrunner, hlast] at hcall
    rw [← Option.some.inj hcall]
    exact hmode.symm
  case replayed =>
    intro replay hr
    obtain rfl : mergedReplay (rules.surface request.changedFiles) runs = replay :=
      Option.some.inj (hreplay.symm.trans hr)
    refine ⟨runs, ?_, ?_⟩
    · rw [hpackages, answers_packageCalls_ran hl]
    · rw [hsurface]
      exact mergedReplay_eq hl
  case unexercised =>
    intro _ hno
    rcases hw.unexercised_eq with ⟨hcrash, -⟩ | ⟨-, hadded⟩
    · exact absurd hcrash hno
    · exact ⟨_, hreplay, hadded _ hreplay⟩
  case unexamined =>
    rintro (hnone | hcrash)
    · exact absurd hnone hidle
    · rcases hw.unexercised_eq with ⟨-, hnone⟩ | ⟨hno, -⟩
      · exact hnone
      · exact absurd hcrash hno

/-- **The outcome of a presubmit run is consistent with what happened in it**, whatever the
    collaborators answer. -/
theorem presubmit_consistent {o : Outcome} (h : Runs (presubmit config rules request) t (.ok o)) :
    Consistent rules request t o := by
  cases course_presubmit h with
  | idle hs => exact consistent_idle hs rfl
  | finished hs dir a b c hw =>
      obtain ⟨text, htext⟩ := hw.finished.exists_report (.of config request.target)
      rw [htext]
      refine consistent_finished hs ?_ hw
      simp [fetchRequest]

/-- A run that goes through all phases: two packages are replayed, and the test that fails in one of
    them is recorded, published and replayed. -/
theorem presubmit_consistent_recovered :
    ∃ t o, Runs (presubmit sampleConfig sampleRules sampleRequest) t (.ok o) ∧
      o.state.terminal = some .done ∧ o.state.cassettesUploaded = true ∧
      t.packageCalls.map Prod.snd = [.ok (samplePhase .fail), .ok .empty] ∧
      Consistent sampleRules sampleRequest t o := by
  have h := runs_sampleRun [samplePhase .fail] [samplePhase .pass, samplePhase .pass] .willing
  obtain ⟨o, ho, hdone, hpublished⟩ : ∃ o,
      (sampleRun [samplePhase .fail] [samplePhase .pass, samplePhase .pass] .willing).1 = .ok o ∧
      o.state.terminal = some .done ∧ o.state.cassettesUploaded = true :=
    ⟨_, rfl, by decide, by decide⟩
  rw [ho] at h
  exact ⟨_, o, h, hdone, hpublished, rfl, presubmit_consistent h⟩

end Presubmit

end CassetteGate
