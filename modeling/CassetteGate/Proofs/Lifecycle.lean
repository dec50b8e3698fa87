import CassetteGate.Proofs.Nightly.Course
import CassetteGate.Proofs.Pipeline.Phases
import CassetteGate.Proofs.Presubmit.Judgement

/-!
# `Proofs.Lifecycle` — a run can be followed by its events

Dashboards follow a run by its events alone. For both kinds of runs, and whatever the collaborators do,
these say what was done: phases are bracketed and calls on the side are told of (`Bracketed`). A run for
a change begins with the event of its surface, and ends with the event of its end exactly if it returns
an outcome (`Framed`); behind that there are only messages.

The courses of both runs are gone through stage by stage. What a stage adds in front of the next one is
a stretch with one phase more, so each stage is one application of `Traced.behind`.

## Contents
- **`RefreshOutcome.phases`**: the runs of the phases that a refresh returns.
- **`ReplayWork.traced`**, **`Nightly.Course.traced`**: the stages of both runs.
- **`Framed`**, **`framed_of_ok`**: the first and the last event.
- **`lifecycle_bracketed`**: all runs.
-/

namespace CassetteGate

open Pipeline

/-- The runs of the phases of a refresh, in order. -/
def RefreshOutcome.phases (o : RefreshOutcome) : List PhaseRun := o.replay :: o.record.toList

/-! ## Runs for a change -/

namespace Presubmit

variable {config : Config} {rules : SurfaceRules} {request : ChangeRequest} {dir : Path}
  {state : RunState} {ts t : Transcript} {w : Except Failure RunState}

/-- An exchange that neither is a step of a phase nor has to be told of. -/
theorem stretch_single {e : Exchange Request.Answer} (he : Aside e) (hnews : news e = []) :
    Stretch [] true [e] :=
  .cons he hnews .nil

theorem stretch_warning (text : String) : Stretch [] true [emitted (.warning text)] :=
  stretch_single ⟨rfl, rfl, rfl⟩ rfl

theorem stretch_recordPart (config : Config) (request : ChangeRequest) (dir : Path)
    (state : RunState) (failed : List String) (record : PhaseRun) (l : Except ServiceFault Unit) :
    Stretch [record] true (recordPart config request dir state failed record l) :=
  (Stretch.parallel _ record).append (.logged _ l)

theorem stretch_replayPart {surface : ChangeSurface} {runs : List PhaseRun}
    (hlength : runs.length = (replayOptions config rules surface dir).length)
    (request : ChangeRequest) (l : Except ServiceFault Unit) :
    Stretch [mergedReplay surface runs] true
      (replayPart config rules request dir surface runs l) := by
  have hmerged : runs = [mergedReplay surface runs] ∨ mergedReplay surface runs = .merge runs := by
    unfold replayOptions at hlength
    unfold mergedReplay
    by_cases hsweep : surface.fullSweep = true
    · -- one call is made on a full sweep, and its run is not merged with anything
      rw [if_pos hsweep] at hlength ⊢
      obtain ⟨run, rfl⟩ := List.length_eq_one_iff.1 hlength
      exact Or.inl rfl
    · rw [if_neg hsweep]
      exact Or.inr rfl
  have hphase := Stretch.packages hlength (fun o ho => mode_of_mem_replayOptions ho) hmerged
  have hpart := hphase.append (.logged (phaseLogs config request .replaying false false) l)
  unfold replayPart
  rwa [List.append_assoc] at hpart

/-- The two exchanges in front of a replay of fresh cassettes. -/
theorem stretch_published :
    Stretch [] true
      [⟨publishRequest config request dir, .ok ()⟩,
        emitted (.cassettesUploaded request.target.headRef)] :=
  .cons ⟨rfl, rfl, rfl⟩ rfl (stretch_single ⟨rfl, rfl, rfl⟩ rfl)

theorem stretch_confirmWarning (confirm : PhaseRun) :
    Stretch [] true ((confirmWarning confirm).map emitted) := by
  apply Stretch.events
  unfold confirmWarning
  by_cases hc : confirm.result.crashed = true
  · rw [if_pos hc]
    exact List.forall_mem_singleton.2 ⟨rfl, rfl, rfl⟩
  · rw [if_neg hc]
    exact List.forall_mem_nil _

theorem ConfirmWork.traced {recorded : List String}
    (h : ConfirmWork config request dir state recorded ts w) :
    Traced (w.map fun s => s.confirm.toList) ts := by
  cases h with
  | unpublished e => exact (stretch_single ⟨rfl, rfl, rfl⟩ rfl).traced_error
  | refused e => exact (stretch_published.append (.parallel_refused _ e)).traced_error
  | confirmed confirm l =>
      have hphase : Stretch [confirm] true _ :=
        (Stretch.parallel (phaseOptions config .replaying dir state.testDirs recorded) confirm).append
          (.logged (phaseLogs config request .replaying true true) l)
      exact ((stretch_published.append hphase).append (stretch_confirmWarning confirm)).traced_ok

/-- The replay of fresh cassettes leaves what the recording found out. -/
theorem ConfirmWork.record_eq {recorded : List String} {state' : RunState}
    (h : ConfirmWork config request dir state recorded ts (.ok state')) :
    state'.record = state.record := by
  cases h with
  | confirmed confirm l => rfl

theorem RecordWork.traced {failed : List String} (hnone : state.confirm = none)
    (h : RecordWork config request dir state failed ts w) :
    Traced (w.map fun s => s.record.toList ++ s.confirm.toList) ts := by
  cases h with
  | refused e => exact (Stretch.parallel_refused _ e).traced_error
  | crashed record l hc =>
      -- nothing is replayed behind a crash, or if nothing was recorded
      have hpart := stretch_recordPart config request dir state failed record l
      show Traced (.ok ([record] ++ state.confirm.toList)) _
      rw [hnone]
      exact (hpart.append (stretch_warning _)).traced_ok
  | nothing record l hc hp =>
      have hpart := stretch_recordPart config request dir state failed record l
      show Traced (.ok ([record] ++ state.confirm.toList)) _
      rw [hnone]
      exact (hpart.append (stretch_warning _)).traced_ok
  | confirming record l hc hp hw =>
      have hpart := stretch_recordPart config request dir state failed record l
      have hwork := hw.traced.behind hpart
      cases w with
      | error failure => exact hwork
      | ok state' =>
          have hrecord : state'.record = some record := hw.record_eq
          show Traced (.ok (state'.record.toList ++ state'.confirm.toList)) _
          rw [hrecord]
          exact hwork

theorem ReplayWork.traced {surface : ChangeSurface}
    (h : ReplayWork config rules request dir surface ts w) : Traced (w.map RunState.phases) ts := by
  cases h with
  | refused ts failure hr =>
      cases hr with
      | refused front o rest runs e ho hl =>
          have hmode : ∀ o' ∈ o :: front, o'.mode = .replaying := by
            intro o' ho'
            apply mode_of_mem_replayOptions
            rw [ho, List.mem_append]
            rcases List.mem_cons.1 ho' with rfl | hfront
            · exact Or.inr List.mem_cons_self
            · exact Or.inl hfront
          exact (Stretch.packages_refused e hl hmode).traced_error
  | crashed runs l hl hc =>
      exact ((stretch_replayPart hl request l).append (stretch_warning _)).traced_ok
  | clean runs l hl hc hf => exact (stretch_replayPart hl request l).traced_ok
  | recording runs l hl hc hf hw =>
      have hwork := (hw.traced rfl).behind (stretch_replayPart hl request l)
      cases w with
      | error failure => exact hwork
      | ok state' =>
          have hreplay : state'.replay = some (mergedReplay surface runs) := hw.kept.2.2.1
          show Traced (.ok (state'.replay.toList ++ state'.record.toList ++ state'.confirm.toList)) _
          rw [hreplay, List.append_assoc]
          exact hwork

theorem stretch_conclusion (config : Config) (request : ChangeRequest) (state : RunState)
    (a b : Except ServiceFault Unit) :
    Stretch [] true (conclusion config request state a b) := by
  unfold conclusion
  cases Report.report? state (.of config request.target) with
  | none => exact .shown _ b
  | some text => exact (Stretch.commented _ text a).append (.shown _ b)

/-! ### The end of a run -/

/-- The first and the last event of a run with this transcript that comes to `r`. -/
structure Framed (surface : ChangeSurface) (t : Transcript) (r : Except Failure Outcome) : Prop where
  /-- The first event tells of the surface. -/
  first : t.events.head? = some (.surfaceComputed surface.fullSweep surface.packages.size)
  /-- A run that returns an outcome ends with the event of its end, which is the only one. -/
  last : ∀ o, r = .ok o → ∃ front terminal,
    t.events.filter Event.isStep = front ++ [.runFinished terminal o.verdict.passed] ∧
    o.state.terminal = some terminal ∧ ∀ event ∈ front, event.endsRun = false
  /-- A run that fails has no such event. -/
  without : ∀ failure, r = .error failure → ∀ event ∈ t.events, event.endsRun = false

theorem endsRun_of_mem_events (h : ∀ e ∈ t, e.request.endsRun = false) :
    ∀ event ∈ t.events, event.endsRun = false := by
  intro event hevent
  obtain ⟨e, he, hemits⟩ := List.mem_filterMap.1 hevent
  have hends : e.request.endsRun = false := h e he
  cases hq : e.request with
  | emit event' =>
      rw [hq] at hemits hends
      obtain rfl := Option.some.inj hemits
      exact hends
  | _ =>
      rw [hq] at hemits
      cases hemits

/-- The end of a run: its event, and a message for each reason against passing. -/
def ending (terminal : Terminal) (verdict : Verdict) : Transcript :=
  emitted (.runFinished terminal verdict.passed)
    :: (verdict.violations.map Event.violation).map emitted

theorem closing_eq {terminal : Terminal} (h : state.terminal = some terminal) :
    (closing state).map emitted = ending terminal (finalVerdict state) := by
  unfold closing
  rw [h]
  rfl

theorem stretch_violations (violations : List String) :
    Stretch [] true ((violations.map Event.violation).map emitted) :=
  .events (List.forall_mem_map.2 fun _ _ => ⟨rfl, rfl, rfl⟩)

variable {surface : ChangeSurface} {front : Transcript} {runs : List PhaseRun} {terminal : Terminal}
  {o : Outcome}

/-- The end of a run has no phase, and no event on the side. -/
theorem bracketed_of_ok (h : Stretch runs true front) (terminal : Terminal) (verdict : Verdict) :
    Bracketed (front ++ ending terminal verdict) (.ok runs) := by
  have hmessages := stretch_violations verdict.violations
  -- the event of the end is no part of a stretch, but it is none of the others either
  have hends : Told ([emitted (.runFinished terminal verdict.passed)] ++ _) :=
    Told.append rfl hmessages.told
  have hphased : Phased (runs ++ []) true (phaseSteps front ++ phaseSteps (ending terminal verdict)) :=
    h.phased.append hmessages.phased
  have htold : Told (front ++ ending terminal verdict) := h.told.append hends
  refine ⟨⟨runs, true, ?_, fun _ hr => ⟨rfl, Except.ok.inj hr⟩⟩, htold.side, htold⟩
  have hsteps : phaseSteps (front ++ ending terminal verdict)
      = phaseSteps front ++ phaseSteps (ending terminal verdict) := List.filter_append _ _
  rwa [hsteps, ← List.append_nil runs]

theorem filter_isStep_ending (terminal : Terminal) (verdict : Verdict) :
    (Transcript.events (ending terminal verdict)).filter Event.isStep
      = [.runFinished terminal verdict.passed] := by
  have hevents : Transcript.events (ending terminal verdict)
      = .runFinished terminal verdict.passed :: verdict.violations.map Event.violation := by
    show _ :: Transcript.events ((verdict.violations.map Event.violation).map emitted) = _
    rw [events_emitted]
  have hmessages : (verdict.violations.map Event.violation).filter Event.isStep = [] := by
    refine List.filter_eq_nil_iff.2 (List.forall_mem_map.2 fun text _ => ?_)
    simp [Event.isStep, Event.fields]
  have hend : (Event.runFinished terminal verdict.passed).isStep = true := by
    simp [Event.isStep, Event.fields]
  rw [hevents, List.filter_cons_of_pos hend, hmessages]

/-- A run that ends with an outcome, behind a stretch that begins with its surface. -/
theorem framed_of_ok (h : Stretch runs true front)
    (hfirst : front.events.head? = some (.surfaceComputed surface.fullSweep surface.packages.size))
    (hterminal : state.terminal = some terminal) (verdict : Verdict) (report : Option String) :
    Framed surface (front ++ ending terminal verdict) (.ok ⟨state, verdict, report⟩) := by
  have hevents : (front ++ ending terminal verdict).events
      = front.events ++ Transcript.events (ending terminal verdict) := List.filterMap_append
  refine ⟨?_, ?_, ?_⟩
  · rw [hevents, List.head?_append, hfirst]
    rfl
  · intro o ho
    obtain rfl := Except.ok.inj ho
    refine ⟨front.events.filter Event.isStep, terminal, ?_, hterminal, ?_⟩
    · rw [hevents, List.filter_append, filter_isStep_ending]
    · intro event hevent
      exact endsRun_of_mem_events h.ongoing event (List.mem_filter.1 hevent).1
  · intro failure hfailure
    cases hfailure

theorem framed_of_error {whole : Bool} {failure : Failure} (h : Stretch runs whole t)
    (hfirst : t.events.head? = some (.surfaceComputed surface.fullSweep surface.packages.size)) :
    Framed surface t (.error failure) where
  first := hfirst
  last o ho := by cases ho
  without _ _ := endsRun_of_mem_events h.ongoing

/-- The event of the surface in front. -/
theorem stretch_surface {whole : Bool} (surface : ChangeSurface) (h : Stretch runs whole t) :
    Stretch runs whole (emitted (.surfaceComputed surface.fullSweep surface.packages.size) :: t) :=
  .cons ⟨rfl, rfl, rfl⟩ rfl h

/-- What the events of a run for a change say of it. -/
theorem Course.followed {r : Except Failure Outcome} (h : Course config rules request t r) :
    Bracketed t (r.map fun o => o.state.phases) ∧
      Framed (rules.surface request.changedFiles) t r := by
  cases h with
  | idle hs =>
      have hfront := stretch_surface (rules.surface request.changedFiles)
        (stretch_single (e := emitted (.note "no test-relevant files changed, skipping VCR"))
          ⟨rfl, rfl, rfl⟩ rfl)
      exact ⟨bracketed_of_ok hfront .nothingToTest .nothingToTest,
        framed_of_ok hfront rfl rfl .nothingToTest none⟩
  | unfetched hs e =>
      have hfront := stretch_surface (rules.surface request.changedFiles)
        (stretch_single (e := ⟨fetchRequest config request, .error e⟩) ⟨rfl, rfl, rfl⟩ rfl)
      exact ⟨hfront.traced_error.bracketed, framed_of_error hfront rfl⟩
  | abandoned hs dir a b hw =>
      obtain ⟨runs, whole, hwork, -⟩ := hw.traced
      -- a phase may have been broken off, so what is behind it must not have any
      have htold := (Stretch.shown (statusPost config request .pending) a).append
        (hwork.before (.shown (statusPost config request .failure) b))
      have hfront := stretch_surface (rules.surface request.changedFiles)
        (.cons (e := ⟨fetchRequest config request, .ok dir⟩) ⟨rfl, rfl, rfl⟩ rfl htold)
      exact ⟨hfront.traced_error.bracketed, framed_of_error hfront rfl⟩
  | @finished hs dir a b c ts state hw =>
      obtain ⟨runs, whole, hwork, hr⟩ := hw.traced
      obtain ⟨rfl, rfl⟩ := hr state.phases rfl
      obtain ⟨terminal, hterminal, -⟩ := hw.finished.exists_terminal
      have htold := (Stretch.shown (statusPost config request .pending) a).append
        (hwork.before (stretch_conclusion config request state b c))
      have hfront := stretch_surface (rules.surface request.changedFiles)
        (.cons (e := ⟨fetchRequest config request, .ok dir⟩) ⟨rfl, rfl, rfl⟩ rfl htold)
      have hend := framed_of_ok hfront rfl hterminal (finalVerdict state)
        (Report.report? state (.of config request.target))
      rw [closing_eq hterminal, ← List.append_assoc, ← List.cons_append, ← List.cons_append]
      exact ⟨bracketed_of_ok hfront terminal (finalVerdict state), hend⟩

end Presubmit

/-! ## Refreshes -/

namespace Nightly

open Presubmit (stretch_single stretch_warning)

variable {config : Config} {request : RefreshRequest} {dir : Path} {run record : PhaseRun}
  {t ts : Transcript}

theorem stretch_savedPart (config : Config) (request : RefreshRequest) (dir : Path) :
    Stretch [] true (savedPart config request dir) :=
  .cons ⟨rfl, rfl, rfl⟩ rfl (.cons ⟨rfl, rfl, rfl⟩ rfl (stretch_single ⟨rfl, rfl, rfl⟩ rfl))

theorem stretch_replayPart (config : Config) (request : RefreshRequest) (dir : Path) (run : PhaseRun)
    (l : Except ServiceFault Unit) : Stretch [run] true (replayPart config request dir run l) := by
  have hmode : ∀ o ∈ [replayOptions config dir], o.mode = .replaying := List.forall_mem_singleton.2 rfl
  have hlength : [run].length = [replayOptions config dir].length := rfl
  exact (Stretch.packages hlength hmode (Or.inl rfl)).append (.logged _ l)

theorem stretch_recordPart (config : Config) (request : RefreshRequest) (dir : Path)
    (run record : PhaseRun) (l : Except ServiceFault Unit) :
    Stretch [record] true (recordPart config request dir run record l) :=
  (Stretch.parallel _ record).append (.logged _ l)

theorem stretch_recordWarning (record : PhaseRun) :
    Stretch [] true ((recordWarning record).map emitted) := by
  apply Stretch.events
  unfold recordWarning
  by_cases hc : record.result.crashed = true
  · rw [if_pos hc]
    exact List.forall_mem_singleton.2 ⟨rfl, rfl, rfl⟩
  · rw [if_neg hc]
    exact List.forall_mem_nil _

/-- A publication that is declined is told of as a call on the side. -/
theorem PublishWork.stretch {uploaded : Bool} (h : PublishWork config dir record ts uploaded) :
    Stretch [] true ts := by
  cases h with
  | nothing hp => exact stretch_warning _
  | accepted hp => exact stretch_single ⟨rfl, rfl, rfl⟩ rfl
  | declined hp e => exact Stretch.side (e := ⟨mainUpload config dir, .error e⟩) ⟨rfl, rfl, rfl⟩

theorem RepairWork.traced {r : Except Failure RefreshOutcome}
    (h : RepairWork config request dir run ts r) :
    Traced (r.map fun o => o.record.toList) ts ∧ ∀ o, r = .ok o → o.replay = run := by
  cases h with
  | refused e => exact ⟨(Stretch.parallel_refused _ e).traced_error, nofun⟩
  | recorded record l hp =>
      have hwork := ((stretch_recordPart config request dir run record l).append hp.stretch).append
        (stretch_recordWarning record)
      refine ⟨hwork.traced_ok, ?_⟩
      intro o ho
      obtain rfl := Except.ok.inj ho
      rfl

/-- What the events of a refresh say of it. -/
theorem Course.traced {r : Except Failure RefreshOutcome} (h : Course config request t r) :
    Traced (r.map RefreshOutcome.phases) t := by
  cases h with
  | unfetched e => exact (stretch_single ⟨rfl, rfl, rfl⟩ rfl).traced_error
  | unsaved dir e =>
      exact (Stretch.cons ⟨rfl, rfl, rfl⟩ rfl (stretch_single ⟨rfl, rfl, rfl⟩ rfl)).traced_error
  | unreplayed dir e =>
      have hmode : ∀ o ∈ [replayOptions config dir], o.mode = .replaying :=
        List.forall_mem_singleton.2 rfl
      -- the only call is refused, so no package was run before it
      have hphase : Stretch [] false ([emitted (.phaseStarted .replaying false 0)] ++ _) :=
        Stretch.packages_refused e (show ([] : List PhaseRun).length = _ from rfl) hmode
      exact ((stretch_savedPart config request dir).append hphase).traced_error
  | crashed dir run l hc =>
      have hreplay := (stretch_savedPart config request dir).append
        (stretch_replayPart config request dir run l)
      exact (hreplay.append (stretch_warning _)).traced_ok
  | clean dir run l hc hf =>
      have hreplay := (stretch_savedPart config request dir).append
        (stretch_replayPart config request dir run l)
      exact hreplay.traced_ok
  | repairing dir run l hc hf hw =>
      have hreplay := (stretch_savedPart config request dir).append
        (stretch_replayPart config request dir run l)
      obtain ⟨htraced, hkept⟩ := hw.traced
      have hwork := htraced.behind hreplay
      cases r with
      | error failure => exact hwork
      | ok o =>
          have hrun : o.replay = run := hkept o rfl
          unfold RefreshOutcome.phases
          show Traced (.ok (o.replay :: o.record.toList)) _
          rw [hrun]
          exact hwork

end Nightly

/-! ## All runs -/

/-- **A run can be followed by its events**, whatever the collaborators do. Starts and ends of phases
    alternate, and each end counts what the runner answered in its phase; a refused call leaves the last
    phase open, and fails the run. What succeeded or failed on the side is told at once, and nothing else
    is. A run for a change begins with its surface and comes to its end exactly if it returns. -/
theorem lifecycle_bracketed (config : Config) (rules : SurfaceRules) (change : ChangeRequest)
    (refresh : RefreshRequest) (t : Transcript) :
    (∀ r, Runs (presubmit config rules change) t r →
      Bracketed t (r.map fun o => o.state.phases) ∧
        Presubmit.Framed (rules.surface change.changedFiles) t r) ∧
    (∀ r, Runs (nightly config refresh) t r → Bracketed t (r.map RefreshOutcome.phases)) := by
  constructor
  · intro r h
    exact (Presubmit.course_presubmit h).followed
  · intro r h
    exact (Nightly.course_nightly h).traced.bracketed

/-- Runs whose phases are all carried out, with everything on the side refused: that is told of six times
    in a run for a change, of three phases, a report and two statuses, and twice in a refresh. -/
theorem lifecycle_bracketed_mute :
    (∃ t r, Runs (presubmit Presubmit.sampleConfig Presubmit.sampleRules Presubmit.sampleRequest) t r ∧
      (t.events.filter Event.tellsSide).length = 6 ∧ Bracketed t (r.map fun o => o.state.phases) ∧
      Presubmit.Framed (Presubmit.sampleRules.surface Presubmit.sampleRequest.changedFiles) t r) ∧
    (∃ t r, Runs (nightly Nightly.sampleConfig Nightly.sampleRequest) t r ∧
      (t.events.filter Event.tellsSide).length = 2 ∧ Bracketed t (r.map RefreshOutcome.phases)) := by
  let mute : ScriptedStores :=
    { ScriptedStores.willing with failLogs := true, failReport := true, failStatus := true }
  let fails : PhaseRun := Presubmit.samplePhase .fail
  let passes : PhaseRun := Presubmit.samplePhase .pass
  constructor
  · have h := Presubmit.runs_sampleRun [fails] [passes, passes] mute
    obtain ⟨hbracketed, hframed⟩ :=
      (lifecycle_bracketed _ _ _ Nightly.sampleRequest _).1 _ h
    exact ⟨_, _, h, by decide, hbracketed, hframed⟩
  · have h := Nightly.runs_sampleRefresh fails passes mute
    have hbracketed := (lifecycle_bracketed _ Presubmit.sampleRules Presubmit.sampleRequest _ _).2 _ h
    exact ⟨_, _, h, by decide, hbracketed⟩

end CassetteGate
