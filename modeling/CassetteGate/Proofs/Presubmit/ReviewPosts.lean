import CassetteGate.Proofs.Presubmit.Finished

/-!
# `Proofs.Presubmit.ReviewPosts` — what a presubmit run says to the review platform

The author of a change sees a run through its statuses and its report. A run that gets as far as its
fetch shows that it is pending, and however it ends, the last thing it does is to say how: every
exit leads to one final status. This holds even if the review platform refuses posts, since a refused
post does not end a run. A report is posted by the runs that return an outcome, right before that
status.

Two facts carry this. The work between the two statuses says nothing itself (`Quiet`), and the verdict
that is returned is the one whose status was posted (`Finished.finalVerdict_eq`).

## Contents
- **`Quiet`**, and **`ReplayWork.quiet`**: work says nothing to the review platform.
- **`ReviewProtocol`**, and **`presubmit_reviewProtocol`**: the posts of a run.
-/

namespace CassetteGate

namespace Presubmit

open Pipeline

variable {config : Config} {rules : SurfaceRules} {request : ChangeRequest} {dir : Path}
  {state : RunState} {ts t : Transcript}

/-! ## Work is quiet -/

/-- Whether a request is one for work, rather than a fetch or a post. -/
@[simp] def isWork : Request → Bool
  | .fetch _ _ _ => false
  | .postReport _ _ => false
  | .postStatus _ => false
  | _ => true

/-- There are neither fetches nor posts. -/
def Quiet (t : Transcript) : Prop := ∀ e ∈ t, isWork e.request = true

namespace Quiet

variable {e : Exchange Request.Answer}

theorem nil : Quiet [] := List.forall_mem_nil _

theorem cons (he : isWork e.request = true) (h : Quiet t) : Quiet (e :: t) :=
  List.forall_mem_cons.2 ⟨he, h⟩

theorem append (hs : Quiet ts) (h : Quiet t) : Quiet (ts ++ t) := List.forall_mem_append.2 ⟨hs, h⟩

theorem emitted (events : List Event) : Quiet (events.map Pipeline.emitted) := by
  intro e he
  obtain ⟨event, -, rfl⟩ := List.mem_map.1 he
  rfl

theorem logged (logs : LogUpload) (a : Except ServiceFault Unit) : Quiet (Pipeline.logged logs a) :=
  cons rfl (emitted _)

theorem parallelPart (options : RunOptions) (a : Except RunnerFault PhaseRun) :
    Quiet (parallelPart options a) :=
  cons rfl (cons rfl (emitted _))

theorem ran (options : List RunOptions) (runs : List PhaseRun) : Quiet (ran options runs) := by
  induction options generalizing runs with
  | nil => exact nil
  | cons o options ih =>
      cases runs with
      | nil => exact nil
      | cons run runs => exact cons rfl (ih runs)

theorem statuses_eq (h : Quiet t) : t.statuses = [] := by
  unfold Transcript.statuses
  rw [List.filterMap_eq_nil_iff]
  intro e he
  have hwork := h e he
  -- only a status would be listed, and there is none
  cases hq : e.request with
  | postStatus post =>
      rw [hq] at hwork
      exact absurd hwork nofun
  | _ => rfl

theorem reports_eq (h : Quiet t) : t.reports = [] := by
  unfold Transcript.reports
  rw [List.filterMap_eq_nil_iff]
  intro e he
  have hwork := h e he
  cases hq : e.request with
  | postReport target text =>
      rw [hq] at hwork
      exact absurd hwork nofun
  | _ => rfl

end Quiet

theorem ConfirmWork.quiet {recorded : List String} {w : Except Failure RunState}
    (h : ConfirmWork config request dir state recorded ts w) : Quiet ts := by
  cases h with
  | unpublished e => exact .cons rfl .nil
  | refused e => exact .cons rfl (.cons rfl (.parallelPart _ _))
  | confirmed confirm l =>
      refine .append (.cons rfl (.cons rfl ?_)) (.emitted _)
      exact .append (.parallelPart _ _) (.logged _ _)

theorem RecordWork.quiet {failed : List String} {w : Except Failure RunState}
    (h : RecordWork config request dir state failed ts w) : Quiet ts := by
  have recorded : ∀ record l, Quiet (recordPart config request dir state failed record l) :=
    fun record l => .append (.parallelPart _ _) (.logged _ _)
  cases h with
  | refused e => exact .parallelPart _ _
  | crashed record l hc => exact .append (recorded _ _) (.cons rfl .nil)
  | nothing record l hc hp => exact .append (recorded _ _) (.cons rfl .nil)
  | confirming record l hc hp hw => exact .append (recorded _ _) hw.quiet

theorem Replayed.quiet {options : List RunOptions} {w : Except Failure (List PhaseRun)}
    (h : Replayed options ts w) : Quiet ts := by
  cases h with
  | answered runs hl => exact .ran _ _
  | refused front o rest runs e ho hl => exact .append (.ran _ _) (.cons rfl .nil)

/-- **Between its two statuses a run says nothing to the review platform.** -/
theorem ReplayWork.quiet {surface : ChangeSurface} {w : Except Failure RunState}
    (h : ReplayWork config rules request dir surface ts w) : Quiet ts := by
  have replayed : ∀ runs l, Quiet (replayPart config rules request dir surface runs l) :=
    fun runs l => .append (.cons rfl (.ran _ _)) (.cons rfl (.logged _ _))
  cases h with
  | refused ts failure hr => exact .cons rfl hr.quiet
  | crashed runs l hl hc => exact .append (replayed _ _) (.cons rfl .nil)
  | clean runs l hl hc hf => exact replayed _ _
  | recording runs l hl hc hf hw => exact .append (replayed _ _) hw.quiet

/-! ## The posts of a run -/

/-- The status that a run leaves behind. -/
def finalStatus : Except Failure Outcome → BuildState
  | .ok o => o.verdict.buildState
  | .error _ => .failure

/-- What is kept to by the posts of a run with the transcript `t` that ends in `r`. -/
structure ReviewProtocol (config : Config) (rules : SurfaceRules) (request : ChangeRequest)
    (t : Transcript) (r : Except Failure Outcome) : Prop where
  /-- No status is posted if there is nothing to test or the fetch is refused, and only then. -/
  silent : t.statuses = [] ↔
    (rules.surface request.changedFiles).isEmpty = true ∨
    ∃ e, ⟨fetchRequest config request, .error e⟩ ∈ t
  /-- Else there are two: pending right behind the fetch, and the final one as the last call. -/
  posted : t.statuses ≠ [] →
    t.statuses = [statusPost config request .pending, statusPost config request (finalStatus r)] ∧
    ∃ dir a work b, t.calls
      = ⟨fetchRequest config request, .ok dir⟩
        :: ⟨.postStatus (statusPost config request .pending), a⟩
        :: work ++ [⟨.postStatus (statusPost config request (finalStatus r)), b⟩]
  /-- If something was tested, the report that is returned is posted right before the final status,
      and no other. -/
  reported : ∀ o, r = .ok o → o.state.terminal ≠ some .nothingToTest →
    ∃ text front a b, o.report = some text ∧ t.reports = [text] ∧
      t.calls = front ++ [⟨.postReport request.target text, a⟩,
        ⟨.postStatus (statusPost config request (finalStatus r)), b⟩]
  /-- A run that failed or had nothing to test is not reported on. -/
  unreported : (∀ o, r = .ok o → o.state.terminal = some .nothingToTest) → t.reports = []

theorem Quiet.testCalls (h : Quiet t) : Quiet t.testCalls := fun e he => h e (List.mem_filter.1 he).1

/-- Neither reason for silence is there if a fetch was answered with a directory: it is the only one,
    so none was refused. -/
theorem not_silent_of_fetched {event : Event} {rest : Transcript}
    (hs : (rules.surface request.changedFiles).isEmpty = false) (hrest : Quiet rest.testCalls) :
    ¬ ((rules.surface request.changedFiles).isEmpty = true ∨
      ∃ e, ⟨fetchRequest config request, .error e⟩
        ∈ emitted event :: ⟨fetchRequest config request, .ok dir⟩ :: rest) := by
  rintro (hempty | ⟨e, hmem⟩)
  · exact absurd (hs.symm.trans hempty) nofun
  · rcases List.mem_cons.1 hmem with hevent | hmem
    · exact absurd hevent nofun
    · rcases List.mem_cons.1 hmem with hfetch | hmem
      · exact absurd hfetch nofun
      · exact absurd (hrest _ (List.mem_filter.2 ⟨hmem, rfl⟩)) nofun

/-- A run that posts nothing, for one of the two reasons, keeps to the protocol. -/
theorem reviewProtocol_silent {r : Except Failure Outcome} (hstatuses : t.statuses = [])
    (hreports : t.reports = [])
    (hwhy : (rules.surface request.changedFiles).isEmpty = true ∨
      ∃ e, ⟨fetchRequest config request, .error e⟩ ∈ t)
    (hr : ∀ o, r = .ok o → o.state.terminal = some .nothingToTest) :
    ReviewProtocol config rules request t r := by
  refine ⟨⟨fun _ => hwhy, fun _ => hstatuses⟩, fun hne => ?_, fun o ho hterm => ?_, fun _ => hreports⟩
  · exact absurd hstatuses hne
  · exact absurd (hr o ho) hterm

/-- A run that failed behind its fetch keeps to the protocol. -/
theorem reviewProtocol_abandoned (hs : (rules.surface request.changedFiles).isEmpty = false)
    (dir : Path) (a b : Except ServiceFault Unit) {failure : Failure} {event : Event}
    (hw : Quiet ts) :
    ReviewProtocol config rules request
      (emitted event :: ⟨fetchRequest config request, .ok dir⟩
        :: (shown (statusPost config request .pending) a
          ++ (ts ++ shown (statusPost config request .failure) b)))
      (.error failure) := by
  have hquiet : Quiet (Transcript.testCalls (shown (statusPost config request .pending) a
      ++ (ts ++ shown (statusPost config request .failure) b))) := by
    rw [Transcript.testCalls_append, Transcript.testCalls_append, Transcript.testCalls_shown,
      Transcript.testCalls_shown]
    exact hw.testCalls.append .nil
  refine ⟨⟨fun hnone => ?_, fun hwhy => ?_⟩, fun _ => ⟨?_, dir, a, ts.calls, b, ?_⟩, ?_, fun _ => ?_⟩
  · simp [fetchRequest] at hnone
  · exact absurd hwhy (not_silent_of_fetched hs hquiet)
  · simp [fetchRequest, hw.statuses_eq, finalStatus]
  · simp [fetchRequest, finalStatus]
  · intro o ho
    cases ho
  · simp [fetchRequest, hw.reports_eq]

/-- A run that was done keeps to the protocol. -/
theorem reviewProtocol_finished (hs : (rules.surface request.changedFiles).isEmpty = false)
    (dir : Path) (a b c : Except ServiceFault Unit) {event : Event} (hw : Quiet ts)
    (hstate : Finished state) :
    ReviewProtocol config rules request
      (emitted event :: ⟨fetchRequest config request, .ok dir⟩
        :: (shown (statusPost config request .pending) a
          ++ (ts ++ conclusion config request state b c ++ (closing state).map emitted)))
      (.ok
        { state
          verdict := finalVerdict state
          report := Report.report? state (.of config request.target) }) := by
  -- there is a report, and the verdict that is returned is the one whose status is posted
  obtain ⟨text, htext⟩ := hstate.exists_report (.of config request.target)
  rw [conclusion_eq htext, hstate.finalVerdict_eq, htext]
  have hquiet : Quiet (Transcript.testCalls (shown (statusPost config request .pending) a
      ++ (ts ++ (commented request.target text b
        ++ shown (statusPost config request (Verdict.of state).buildState) c)
      ++ (closing state).map emitted))) := by
    simp only [Transcript.testCalls_append, Transcript.testCalls_shown,
      Transcript.testCalls_commented, Transcript.testCalls_emitted, List.nil_append,
      List.append_nil]
    exact hw.testCalls
  refine ⟨⟨fun hnone => ?_, fun hwhy => ?_⟩, fun _ => ⟨?_, dir, a, ?work, c, ?_⟩, ?_,
    fun hnone => ?_⟩
  case work => exact ts.calls ++ [⟨.postReport request.target text, b⟩]
  · simp [fetchRequest] at hnone
  · exact absurd hwhy (not_silent_of_fetched hs hquiet)
  · simp [fetchRequest, hw.statuses_eq, finalStatus]
  · simp [fetchRequest, finalStatus]
  · intro o ho _
    refine ⟨text, ⟨fetchRequest config request, .ok dir⟩
      :: ⟨.postStatus (statusPost config request .pending), a⟩ :: ts.calls, b, c, ?_, ?_, ?_⟩
    · rw [← Except.ok.inj ho]
    · simp [fetchRequest, hw.reports_eq]
    · simp [fetchRequest, finalStatus]
  · exact absurd (hnone _ rfl) hstate.terminal_ne

/-- **The statuses and reports of a presubmit run**, whatever the collaborators answer. -/
theorem presubmit_reviewProtocol {r : Except Failure Outcome}
    (h : Runs (presubmit config rules request) t r) : ReviewProtocol config rules request t r := by
  cases course_presubmit h with
  | idle hs =>
      refine reviewProtocol_silent rfl rfl (Or.inl hs) fun o ho => ?_
      rw [← Except.ok.inj ho]
  | unfetched hs e =>
      refine reviewProtocol_silent rfl rfl (Or.inr ⟨e, ?_⟩) fun o ho => ?_
      · exact List.mem_cons_of_mem _ List.mem_cons_self
      · cases ho
  | abandoned hs dir a b hw => exact reviewProtocol_abandoned hs dir a b hw.quiet
  | finished hs dir a b c hw => exact reviewProtocol_finished hs dir a b c hw.quiet hw.finished

/-- A run at a review platform that refuses every post: it posts two statuses and a report. -/
theorem presubmit_reviewProtocol_refused :
    ∃ t r, Runs (presubmit sampleConfig sampleRules sampleRequest) t r ∧
      t.statuses.length = 2 ∧ t.reports.length = 1 ∧
      ReviewProtocol sampleConfig sampleRules sampleRequest t r :=
  let h := runs_sampleRun [samplePhase .fail] [samplePhase .pass, samplePhase .pass]
    { ScriptedStores.willing with failReport := true, failStatus := true }
  ⟨_, _, h, by decide, by decide, presubmit_reviewProtocol h⟩

end Presubmit

end CassetteGate
