import CassetteGate.Proofs.Presubmit.Steps

/-!
# `Proofs.Pipeline.Phases` — how a transcript tells of its phases

Runs are followed by their events. Two kinds of them have to agree with what is done: a phase is put
between the event of its start and the event of its end, and a call on the side is followed at once by
the event that tells how it went. Both are properties of a stretch of a transcript that carry over to
stretches put together (`Stretch.append`), as long as the phase in front came to its end. So it is enough
to look at each step of a run by itself, and there are few kinds of steps: those of a phase
(`Stretch.of_steps`), calls on the side with their events (`Stretch.side`), and all others
(`Stretch.plain`).

## Contents
- **`Carried`**, **`BrokenOff`**, **`Phased`**: phases, with the run that each of them comes to.
- **`news`**, **`Told`**: calls on the side.
- **`Stretch`**, with a rule for each kind of step.
- **`Traced`**, **`Bracketed`**: the parts of a run, and whole transcripts.
-/

namespace CassetteGate

open Pipeline

/-! ## Kinds of events -/

namespace Event

/-- Whether an event is the start or the end of a phase. -/
def boundsPhase : Event → Bool
  | .phaseStarted _ _ _ => true
  | .phaseCounted _ _ _ _ _ _ => true
  | _ => false

/-- Whether an event tells how a call on the side went. -/
def tellsSide : Event → Bool
  | .statusPosted _ => true
  | .sideEffectFailed _ _ => true
  | _ => false

/-- Whether an event is the end of a run. -/
def endsRun : Event → Bool
  | .runFinished _ _ => true
  | _ => false

/-- Whether an event is a step in the life of a run and not a mere message: it has a name. -/
def isStep (event : Event) : Bool := event.fields.any fun field => field.1 == "event"

end Event

namespace Pipeline

variable {e : Exchange Request.Answer}

/-- Whether a request is a step of a phase: an event around it, or one to the runner. -/
def Request.isPhaseStep : Request → Bool
  | .runTests _ => true
  | .runEach _ => true
  | .emit event => event.boundsPhase
  | _ => false

/-- Whether a request is an event that tells how a call on the side went. -/
def Request.tellsSide : Request → Bool
  | .emit event => event.tellsSide
  | _ => false

/-- Whether a request is the event of the end of a run. -/
def Request.endsRun : Request → Bool
  | .emit event => event.endsRun
  | _ => false

/-! ## Phases -/

/-- The event that a phase came to its end with this run. -/
def counted (mode : TestMode) (run : PhaseRun) : Exchange Request.Answer :=
  emitted (.phaseCounted mode run.result.passed.size run.result.failed.size run.result.skipped.size
    run.result.crashed (run.exitError.getD ""))

/-- A phase that is carried out, and the run that it comes to. -/
inductive Carried (run : PhaseRun) : Transcript → Prop where
  /-- Single tests, as many as the event of the start says. -/
  | parallel (options : RunOptions) :
      Carried run
        [emitted (.phaseStarted options.mode true options.tests.length),
          ⟨.runEach options, .ok run⟩, counted options.mode run]
  /-- Whole packages, in one call or in several whose runs are merged. -/
  | packages (mode : TestMode) (options : List RunOptions) (runs : List PhaseRun)
      (hlength : runs.length = options.length) (hmode : ∀ o ∈ options, o.mode = mode)
      (hrun : runs = [run] ∨ run = .merge runs) :
      Carried run
        (emitted (.phaseStarted mode false 0) :: Presubmit.ran options runs ++ [counted mode run])

/-- A phase that is broken off because the runner refused a call. -/
inductive BrokenOff : Transcript → Prop where
  | parallel (options : RunOptions) (e : RunnerFault) :
      BrokenOff
        [emitted (.phaseStarted options.mode true options.tests.length), ⟨.runEach options, .error e⟩]
  | packages (mode : TestMode) (options : List RunOptions) (runs : List PhaseRun) (o : RunOptions)
      (e : RunnerFault) (hlength : runs.length = options.length)
      (hmode : ∀ o' ∈ o :: options, o'.mode = mode) :
      BrokenOff
        (emitted (.phaseStarted mode false 0) :: Presubmit.ran options runs
          ++ [⟨.runTests o, .error e⟩])

/-- Phases one after another, with the runs of those that are carried out. If `whole` is false there is
    one more behind them, which is broken off. -/
inductive Phased : List PhaseRun → (whole : Bool) → Transcript → Prop where
  | nil : Phased [] true []
  | broken {t : Transcript} (h : BrokenOff t) : Phased [] false t
  | carried {run : PhaseRun} {runs : List PhaseRun} {whole : Bool} {t rest : Transcript}
      (h : Carried run t) (hrest : Phased runs whole rest) : Phased (run :: runs) whole (t ++ rest)

theorem Phased.append {runs runs' : List PhaseRun} {whole : Bool} {t t' : Transcript}
    (h : Phased runs true t) (h' : Phased runs' whole t') :
    Phased (runs ++ runs') whole (t ++ t') := by
  -- by induction on the phases in front, none of which is broken off
  generalize hw : true = w at h
  induction h with
  | nil => exact h'
  | broken h => cases hw
  | carried h _ ih =>
      rw [List.append_assoc]
      exact .carried h (ih hw)

/-- There are no steps if there are no phases. -/
theorem Phased.eq_nil {t : Transcript} (h : Phased [] true t) : t = [] := by
  cases h with
  | nil => rfl

theorem Carried.phased {run : PhaseRun} {t : Transcript} (h : Carried run t) :
    Phased [run] true t := by
  have hone : Phased [run] true (t ++ []) := .carried h .nil
  rwa [List.append_nil] at hone

/-! ## Calls on the side -/

/-- The events that have to follow an exchange: that a status was posted, or that a call was refused
    without which the run goes on. -/
def news : Exchange Request.Answer → List Event
  | ⟨.postStatus post, .ok _⟩ => [.statusPosted post.state]
  | ⟨.postStatus _, .error e⟩ => [.sideEffectFailed "status post" e.message]
  | ⟨.postReport _ _, .error e⟩ => [.sideEffectFailed "report post" e.message]
  | ⟨.uploadLogs _, .error e⟩ => [.sideEffectFailed "log upload" e.message]
  | ⟨.upload _ .main _, .error e⟩ => [.sideEffectFailed "cassette upload" e.message]
  | _ => []

/-- An exchange with the events that have to follow it. -/
def withNews (e : Exchange Request.Answer) : Transcript := e :: (news e).map emitted

/-- Each call on the side is followed at once by its events, and there are no other events of this
    kind. -/
def Told (t : Transcript) : Prop := t = (t.filter fun e => !e.request.tellsSide).flatMap withNews

theorem Told.append {t t' : Transcript} (h : Told t) (h' : Told t') : Told (t ++ t') := by
  unfold Told at h h' ⊢
  rw [List.filter_append, List.flatMap_append, ← h, ← h']

theorem told_nil : Told [] := rfl

/-- Events of this kind are all that has to follow an exchange. -/
theorem tellsSide_of_mem_news {event : Event} (h : event ∈ news e) : event.tellsSide = true := by
  unfold news at h
  split at h
  all_goals first
    | exact absurd h List.not_mem_nil
    | rw [List.mem_singleton.1 h]; rfl

/-- An exchange with its events is told, unless it is such an event itself. -/
theorem told_withNews (h : e.request.tellsSide = false) : Told (withNews e) := by
  -- without its events there is the exchange alone, and they are put back behind it
  have hkept : (withNews e).filter (fun e => !e.request.tellsSide) = [e] := by
    unfold withNews
    rw [List.filter_cons_of_pos (by rw [h]; rfl), List.filter_eq_nil_iff.2]
    intro exchange hmem
    obtain ⟨event, hevent, rfl⟩ := List.mem_map.1 hmem
    rw [show (emitted event).request.tellsSide = true from tellsSide_of_mem_news hevent]
    decide
  unfold Told
  rw [hkept, List.flatMap_singleton]

theorem withNews_eq (h : news e = []) : withNews e = [e] := by
  unfold withNews
  rw [h]
  rfl

/-- A step of a phase is none of the events that are looked at, and no call on the side. -/
theorem silent_of_isPhaseStep (h : e.request.isPhaseStep = true) :
    e.request.tellsSide = false ∧ e.request.endsRun = false ∧ news e = [] := by
  obtain ⟨q, a⟩ := e
  cases q with
  | runTests options => exact ⟨rfl, rfl, rfl⟩
  | runEach options => exact ⟨rfl, rfl, rfl⟩
  | emit event =>
      cases event with
      | phaseStarted mode parallel tests => exact ⟨rfl, rfl, rfl⟩
      | phaseCounted mode passed failed skipped crashed exitError => exact ⟨rfl, rfl, rfl⟩
      | _ => cases h
  | _ => cases h

/-! ## Stretches of a transcript -/

/-- The steps of phases in a transcript. -/
def phaseSteps (t : Transcript) : Transcript := t.filter fun e => e.request.isPhaseStep

/-- A stretch of a transcript in which phases and calls on the side are told as they should, and the
    run does not come to its end. -/
structure Stretch (runs : List PhaseRun) (whole : Bool) (t : Transcript) : Prop where
  phased : Phased runs whole (phaseSteps t)
  told : Told t
  ongoing : ∀ e ∈ t, e.request.endsRun = false

/-- An exchange that is neither a step of a phase nor an event that is looked at. -/
structure Aside (e : Exchange Request.Answer) : Prop where
  step : e.request.isPhaseStep = false
  tells : e.request.tellsSide = false
  ends : e.request.endsRun = false

/-- An event that tells of the side is none of the others. -/
theorem not_bounds_of_tellsSide {event : Event} (h : event.tellsSide = true) :
    event.boundsPhase = false ∧ event.endsRun = false := by
  cases event with
  | statusPosted state => exact ⟨rfl, rfl⟩
  | sideEffectFailed action error => exact ⟨rfl, rfl⟩
  | _ => cases h

namespace Stretch

variable {runs runs' : List PhaseRun} {run : PhaseRun} {whole : Bool} {t t' : Transcript}

theorem nil : Stretch [] true [] := ⟨.nil, told_nil, List.forall_mem_nil _⟩

/-- **Stretches are put together** behind a last phase that came to its end. -/
theorem append (h : Stretch runs true t) (h' : Stretch runs' whole t') :
    Stretch (runs ++ runs') whole (t ++ t') where
  phased := by
    have hsteps : phaseSteps (t ++ t') = phaseSteps t ++ phaseSteps t' := List.filter_append _ _
    rw [hsteps]
    exact h.phased.append h'.phased
  told := h.told.append h'.told
  ongoing := List.forall_mem_append.2 ⟨h.ongoing, h'.ongoing⟩

/-- A stretch without phases may stand behind a phase that is broken off. -/
theorem before (h : Stretch runs whole t) (h' : Stretch [] true t') : Stretch runs whole (t ++ t') where
  phased := by
    have hsteps : phaseSteps (t ++ t') = phaseSteps t ++ phaseSteps t' := List.filter_append _ _
    rw [hsteps, h'.phased.eq_nil, List.append_nil]
    exact h.phased
  told := h.told.append h'.told
  ongoing := List.forall_mem_append.2 ⟨h.ongoing, h'.ongoing⟩

/-- A call on the side, with its events. -/
theorem side (he : Aside e) : Stretch [] true (withNews e) where
  phased := by
    have hnone : phaseSteps (withNews e) = [] := by
      refine List.filter_eq_nil_iff.2 (List.forall_mem_cons.2 ⟨by rw [he.step]; decide, ?_⟩)
      refine List.forall_mem_map.2 fun event hevent => ?_
      show ¬ event.boundsPhase = true
      rw [(not_bounds_of_tellsSide (tellsSide_of_mem_news hevent)).1]
      decide
    rw [hnone]
    exact .nil
  told := told_withNews he.tells
  ongoing := by
    refine List.forall_mem_cons.2 ⟨he.ends, List.forall_mem_map.2 fun event hevent => ?_⟩
    exact (not_bounds_of_tellsSide (tellsSide_of_mem_news hevent)).2

/-- An exchange of no interest in front. -/
theorem cons (he : Aside e) (hnews : news e = []) (h : Stretch runs whole t) :
    Stretch runs whole (e :: t) := by
  have hfront : Stretch [] true (withNews e) := side he
  rw [withNews_eq hnews] at hfront
  exact hfront.append h

/-- Events of no interest. -/
theorem events {events : List Event} (h : ∀ event ∈ events, Aside (emitted event)) :
    Stretch [] true (events.map emitted) := by
  induction events with
  | nil => exact nil
  | cons event events ih =>
      obtain ⟨hevent, hrest⟩ := List.forall_mem_cons.1 h
      exact cons hevent rfl (ih hrest)

/-- Nothing but steps of phases. -/
theorem of_steps (hsteps : ∀ e ∈ t, e.request.isPhaseStep = true) (h : Phased runs whole t) :
    Stretch runs whole t where
  phased := by
    have hall : phaseSteps t = t := List.filter_eq_self.2 hsteps
    rwa [hall]
  told := by
    clear h
    induction t with
    | nil => exact told_nil
    | cons e t ih =>
        obtain ⟨he, hrest⟩ := List.forall_mem_cons.1 hsteps
        obtain ⟨htells, -, hnews⟩ := silent_of_isPhaseStep he
        have hfront : Told (withNews e) := told_withNews htells
        rw [withNews_eq hnews] at hfront
        exact hfront.append (ih hrest)
  ongoing e he := (silent_of_isPhaseStep (hsteps e he)).2.1

/-! ### The steps of runs -/

theorem logged (logs : LogUpload) (a : Except ServiceFault Unit) :
    Stretch [] true (Pipeline.logged logs a) := by
  have hnews : Pipeline.logged logs a = withNews ⟨.uploadLogs logs, a⟩ := by
    cases a <;> rfl
  rw [hnews]
  exact side ⟨rfl, rfl, rfl⟩

theorem commented (target : ReviewTarget) (text : String) (a : Except ServiceFault Unit) :
    Stretch [] true (Pipeline.commented target text a) := by
  have hnews : Pipeline.commented target text a = withNews ⟨.postReport target text, a⟩ := by
    cases a <;> rfl
  rw [hnews]
  exact side ⟨rfl, rfl, rfl⟩

theorem shown (post : StatusPost) (a : Except ServiceFault Unit) :
    Stretch [] true (Pipeline.shown post a) := by
  have hnews : Pipeline.shown post a = withNews ⟨.postStatus post, a⟩ := by
    cases a <;> rfl
  rw [hnews]
  exact side ⟨rfl, rfl, rfl⟩

theorem isPhaseStep_ran (options : List RunOptions) (runs : List PhaseRun) :
    ∀ e ∈ Presubmit.ran options runs, e.request.isPhaseStep = true := by
  induction options generalizing runs with
  | nil => exact List.forall_mem_nil _
  | cons o options ih =>
      cases runs with
      | nil => exact List.forall_mem_nil _
      | cons run runs => exact List.forall_mem_cons.2 ⟨rfl, ih runs⟩

/-- A phase that runs single tests. -/
theorem parallel (options : RunOptions) (run : PhaseRun) :
    Stretch [run] true (Presubmit.parallelPart options (.ok run)) := by
  apply of_steps
  · exact List.forall_mem_cons.2 ⟨rfl, List.forall_mem_cons.2 ⟨rfl, List.forall_mem_singleton.2 rfl⟩⟩
  · exact (Carried.parallel options).phased

theorem parallel_refused (options : RunOptions) (e : RunnerFault) :
    Stretch [] false (Presubmit.parallelPart options (.error e)) := by
  apply of_steps
  · exact List.forall_mem_cons.2 ⟨rfl, List.forall_mem_singleton.2 rfl⟩
  · exact .broken (.parallel options e)

/-- A phase that runs whole packages. -/
theorem packages {mode : TestMode} {options : List RunOptions} {runs : List PhaseRun}
    (hlength : runs.length = options.length) (hmode : ∀ o ∈ options, o.mode = mode)
    (hrun : runs = [run] ∨ run = .merge runs) :
    Stretch [run] true
      (emitted (.phaseStarted mode false 0) :: Presubmit.ran options runs
        ++ [emitted (.phaseFinished mode run)]) := by
  apply of_steps
  · refine List.forall_mem_cons.2 ⟨rfl, List.forall_mem_append.2 ⟨isPhaseStep_ran _ _, ?_⟩⟩
    exact List.forall_mem_singleton.2 rfl
  · exact (Carried.packages mode options runs hlength hmode hrun).phased

theorem packages_refused {mode : TestMode} {options : List RunOptions} {runs : List PhaseRun}
    {o : RunOptions} (e : RunnerFault) (hlength : runs.length = options.length)
    (hmode : ∀ o' ∈ o :: options, o'.mode = mode) :
    Stretch [] false
      (emitted (.phaseStarted mode false 0) :: Presubmit.ran options runs
        ++ [⟨.runTests o, .error e⟩]) := by
  apply of_steps
  · refine List.forall_mem_cons.2 ⟨rfl, List.forall_mem_append.2 ⟨isPhaseStep_ran _ _, ?_⟩⟩
    exact List.forall_mem_singleton.2 rfl
  · exact .broken (.packages mode options runs o e hlength hmode)

end Stretch

/-! ## Whole transcripts -/

/-- A stretch that follows a part of a run which came to `r`: the runs of its phases, or a failure. -/
def Traced (r : Except Failure (List PhaseRun)) (t : Transcript) : Prop :=
  ∃ runs whole, Stretch runs whole t ∧ ∀ expected, r = .ok expected → whole = true ∧ runs = expected

section Traced

variable {runs front : List PhaseRun} {whole : Bool} {t ts : Transcript}
  {r : Except Failure (List PhaseRun)}

theorem Stretch.traced_ok (h : Stretch runs true t) : Traced (.ok runs) t :=
  ⟨runs, true, h, fun _ hr => ⟨rfl, Except.ok.inj hr⟩⟩

theorem Stretch.traced_error {failure : Failure} (h : Stretch runs whole t) :
    Traced (.error failure) t :=
  ⟨runs, whole, h, nofun⟩

/-- A part behind phases that came to their end. -/
theorem Traced.behind (h : Traced r t) (hfront : Stretch front true ts) :
    Traced (r.map (front ++ ·)) (ts ++ t) := by
  obtain ⟨runs, whole, hstretch, hr⟩ := h
  refine ⟨front ++ runs, whole, hfront.append hstretch, ?_⟩
  intro expected hexpected
  cases r with
  | ok runs' =>
      obtain ⟨rfl, rfl⟩ := hr runs' rfl
      exact ⟨rfl, Except.ok.inj hexpected⟩
  | error failure => cases hexpected

end Traced

/-- What the events of a run with this transcript say of its phases and of the calls on the side. The
    run comes to `r`: the runs of its phases, or a failure. -/
structure Bracketed (t : Transcript) (r : Except Failure (List PhaseRun)) : Prop where
  /-- Starts and ends of phases alternate around the calls to the runner. Only a failure breaks a phase
      off, and no other follows it. -/
  phased : ∃ runs whole, Phased runs whole (phaseSteps t) ∧
    ∀ expected, r = .ok expected → whole = true ∧ runs = expected
  /-- The events on calls on the side are those that have to be there. -/
  side : t.events.filter Event.tellsSide = t.flatMap news
  /-- Each of them follows its call at once. -/
  told : Told t

theorem events_emitted (events : List Event) : Transcript.events (events.map emitted) = events := by
  unfold Transcript.events
  rw [List.filterMap_map]
  exact List.filterMap_some

/-- The events that have to follow an exchange are the ones among it and them. -/
theorem side_withNews (h : e.request.tellsSide = false) :
    (Transcript.events (withNews e)).filter Event.tellsSide = (withNews e).flatMap news := by
  have hfollow : ((news e).map emitted).flatMap news = [] := by
    refine List.flatMap_eq_nil_iff.2 fun exchange hmem => ?_
    obtain ⟨event, -, rfl⟩ := List.mem_map.1 hmem
    rfl
  have hnews : (news e).filter Event.tellsSide = news e :=
    List.filter_eq_self.2 fun event => tellsSide_of_mem_news
  have hevents : Transcript.events ((news e).map emitted) = news e := events_emitted (news e)
  unfold withNews
  rw [List.flatMap_cons, hfollow, List.append_nil]
  obtain ⟨q, a⟩ := e
  cases q with
  | emit event =>
      -- an event has nothing to follow it, and this one is not looked at
      have hother : ¬ event.tellsSide = true := Bool.eq_false_iff.1 h
      show [event].filter Event.tellsSide = []
      rw [List.filter_cons_of_neg hother, List.filter_nil]
  | _ =>
      show (Transcript.events ((news _).map emitted)).filter Event.tellsSide = _
      rw [hevents, hnews]

/-- If each call on the side is followed at once by its events, and there are no others, then these are
    the events of the transcript. -/
theorem Told.side {t : Transcript} (h : Told t) :
    t.events.filter Event.tellsSide = t.flatMap news := by
  -- the transcript is made of the exchanges that are no such events, so these are what is gone through
  have hside : ∀ s : Transcript, (∀ e ∈ s, e.request.tellsSide = false) →
      (Transcript.events (s.flatMap withNews)).filter Event.tellsSide
        = (s.flatMap withNews).flatMap news := by
    intro s hs
    induction s with
    | nil => rfl
    | cons e s ih =>
        obtain ⟨he, hrest⟩ := List.forall_mem_cons.1 hs
        have happend : Transcript.events (withNews e ++ s.flatMap withNews)
            = Transcript.events (withNews e) ++ Transcript.events (s.flatMap withNews) :=
          List.filterMap_append
        rw [List.flatMap_cons, happend, List.filter_append, side_withNews he, ih hrest,
          List.flatMap_append]
  have hkept : ∀ e ∈ t.filter (fun e => !e.request.tellsSide), e.request.tellsSide = false := by
    intro e he
    have hnot : (!e.request.tellsSide) = true := (List.mem_filter.1 he).2
    rwa [Bool.not_eq_true'] at hnot
  have hwhole := hside _ hkept
  unfold Told at h
  rwa [← h] at hwhole

theorem Traced.bracketed {t : Transcript} {r : Except Failure (List PhaseRun)} (h : Traced r t) :
    Bracketed t r := by
  obtain ⟨runs, whole, hstretch, hr⟩ := h
  exact ⟨⟨runs, whole, hstretch.phased, hr⟩, hstretch.told.side, hstretch.told⟩

end Pipeline

end CassetteGate
