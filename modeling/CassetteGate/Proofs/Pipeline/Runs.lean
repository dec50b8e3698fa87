import CassetteGate.Pipeline.Script

/-!
# `Proofs.Pipeline.Runs` — what the parts of a run can do

A part of a run is a program; what it can do is the set of its transcripts, each with the result it
ends in, over all answers that the collaborators may give. This file says for each operation of
`Pipeline.Collaborators` what that set is, so that nothing later opens an operation: a run of a
sequence is taken apart at its `>>=`, and the pieces are read off the lemmas here.

The operations come in two kinds. A call that the run depends on (`runTests`, `fetch`, …) is one
exchange, and its refusal is the run's failure. A call on the side (`uploadLogs`, `postStatus`, …)
never fails; it is its exchange and the event that tells how it went.

## Contents
- **`Runs`**; **`runs_rehearse`**: a rehearsal is a run.
- **`Runs.bind_cases`** / **`Runs.bind_of_ok`**: a run of a sequence.
- **`emitted`**, **`logged`**, **`commented`**, **`shown`**: the exchanges of one operation.
- **`runs_runTests`** … **`runs_postStatus`**: the runs of each operation.
- **`Transcript.calls`**, **`Transcript.testCalls`**: the exchanges with collaborators, and those of
  them that are with the runner or the cassette store. Each view ignores events.
-/

namespace CassetteGate

namespace Pipeline

variable {α β : Type}

/-- With some answers of the collaborators, the part `p` of a run has the transcript `t` and ends
    in `r`. -/
def Runs (p : Pipeline α) (t : Transcript) (r : Except Failure α) : Prop :=
  Program.Yields p.run t r

/-- A rehearsal is a run. -/
theorem runs_rehearse (s : Script) (p : Pipeline α) : Runs p (s.rehearse p).2 (s.rehearse p).1 :=
  Program.yields_play Script.answer p.run s

/-! ## Sequences -/

theorem runs_pure {a : α} {t : Transcript} {r : Except Failure α} :
    Runs (pure a) t r ↔ t = [] ∧ r = .ok a := by
  unfold Runs
  constructor
  · intro h
    cases h
    exact ⟨rfl, rfl⟩
  · rintro ⟨rfl, rfl⟩
    exact .done _

theorem runs_throw {f : Failure} {t : Transcript} {r : Except Failure α} :
    Runs (throw f) t r ↔ t = [] ∧ r = .error f := by
  unfold Runs
  constructor
  · intro h
    cases h
    exact ⟨rfl, rfl⟩
  · rintro ⟨rfl, rfl⟩
    exact .done _

/-- **A run of a sequence** is a run of its first part that goes on in the second, or a run of the
    first part that fails. -/
theorem Runs.bind_cases {p : Pipeline α} {f : α → Pipeline β} {t : Transcript}
    {r : Except Failure β} (h : Runs (p >>= f) t r) :
    (∃ before a behind, t = before ++ behind ∧ Runs p before (.ok a) ∧ Runs (f a) behind r) ∨
    (∃ failure, r = .error failure ∧ Runs p t (.error failure)) := by
  rcases Program.yields_run_bind_iff.1 h with ⟨before, a, behind, hp, hf, ht⟩ | ⟨failure, hp, hr⟩
  · exact Or.inl ⟨before, a, behind, ht, hp, hf⟩
  · exact Or.inr ⟨failure, hr, hp⟩

/-- A run of a sequence goes on behind a part that cannot fail. -/
theorem Runs.bind_of_ok {p : Pipeline α} {f : α → Pipeline β} {a : α} {t : Transcript}
    {r : Except Failure β} (h : Runs (p >>= f) t r)
    (hp : ∀ {t : Transcript} {r : Except Failure α}, Runs p t r → r = .ok a) :
    ∃ before behind, t = before ++ behind ∧ Runs p before (.ok a) ∧ Runs (f a) behind r := by
  rcases h.bind_cases with ⟨before, a', behind, rfl, hb, hf⟩ | ⟨failure, rfl, hb⟩
  · obtain rfl : a' = a := Except.ok.inj (hp hb)
    exact ⟨before, behind, rfl, hb, hf⟩
  · exact absurd (hp hb) (by simp)

/-- A run that mends failures is a run of the part that does not fail, or one that does, followed
    by a run of the mending. -/
theorem Runs.tryCatch_cases {p : Pipeline α} {handler : Failure → Pipeline α} {t : Transcript}
    {r : Except Failure α} (h : Runs (tryCatch p handler) t r) :
    (∃ a, r = .ok a ∧ Runs p t (.ok a)) ∨
    (∃ before failure behind, t = before ++ behind ∧ Runs p before (.error failure) ∧
      Runs (handler failure) behind r) := by
  unfold Runs at h ⊢
  obtain ⟨before, a, behind, hp, hf, rfl⟩ := Program.yields_bind_iff.1 h
  cases a with
  | ok a =>
      obtain ⟨rfl, rfl⟩ := runs_pure.1 (show Runs (pure a : Pipeline α) behind r from hf)
      rw [List.append_nil]
      exact Or.inl ⟨a, rfl, hp⟩
  | error failure => exact Or.inr ⟨before, failure, behind, rfl, hp, hf⟩

theorem runs_map {p : Pipeline α} {g : α → β} {t : Transcript} {r : Except Failure β} :
    Runs (g <$> p) t r → ∃ r', r = r'.map g ∧ Runs p t r' := by
  rw [← bind_pure_comp]
  intro h
  rcases h.bind_cases with ⟨before, a, behind, rfl, hp, hf⟩ | ⟨failure, rfl, hp⟩
  · obtain ⟨rfl, rfl⟩ := runs_pure.1 hf
    rw [List.append_nil]
    exact ⟨.ok a, rfl, hp⟩
  · exact ⟨.error failure, rfl, hp⟩

/-! ## Questions -/

theorem runs_ask {q : Request} {t : Transcript} {r : Except Failure q.Answer} (h : Runs (ask q) t r) :
    ∃ a, t = [⟨q, a⟩] ∧ r = .ok a := by
  unfold Runs at h
  cases h with
  | ask h =>
      cases h
      exact ⟨_, rfl, rfl⟩

/-- A run goes on with the answer to its first question. -/
theorem Runs.ask_bind {q : Request} {f : q.Answer → Pipeline β} {t : Transcript}
    {r : Except Failure β} (h : Runs (ask q >>= f) t r) :
    ∃ a behind, t = ⟨q, a⟩ :: behind ∧ Runs (f a) behind r := by
  rcases h.bind_cases with ⟨before, a, behind, rfl, hq, hf⟩ | ⟨failure, rfl, hq⟩
  · obtain ⟨a', rfl, ha⟩ := runs_ask hq
    obtain rfl : a = a' := Except.ok.inj ha
    exact ⟨a, behind, rfl, hf⟩
  · obtain ⟨a, -, ha⟩ := runs_ask hq
    exact absurd ha (by simp)

/-! ## The exchanges of one operation -/

/-- An event that is emitted. -/
def emitted (event : Event) : Exchange Request.Answer := ⟨.emit event, ()⟩

/-- The events that follow a call on the side: `news` if it was done, else a warning. -/
def aftermath (news : List Event) (action : String) : Except ServiceFault Unit → List Event
  | .ok () => news
  | .error e => [.sideEffectFailed action e.message]

/-- Logs that are published, or are refused to be. -/
def logged (logs : LogUpload) (a : Except ServiceFault Unit) : Transcript :=
  ⟨.uploadLogs logs, a⟩ :: (aftermath [] "log upload" a).map emitted

/-- A comment that is posted, or is refused to be. -/
def commented (target : ReviewTarget) (text : String) (a : Except ServiceFault Unit) : Transcript :=
  ⟨.postReport target text, a⟩ :: (aftermath [] "report post" a).map emitted

/-- A status that is posted, or is refused to be. -/
def shown (post : StatusPost) (a : Except ServiceFault Unit) : Transcript :=
  ⟨.postStatus post, a⟩ :: (aftermath [.statusPosted post.state] "status post" a).map emitted

/-! ## Calls that the run depends on -/

theorem runs_ofExcept {a : Except Failure α} {t : Transcript} {r : Except Failure α} :
    Runs (MonadExcept.ofExcept a) t r ↔ t = [] ∧ r = a := by
  cases a with
  | ok a => exact runs_pure
  | error failure => exact runs_throw

/-- A call whose answer is passed on, its refusal as the failure of the run, is one exchange. -/
theorem Runs.ask_ofExcept {q : Request} {k : q.Answer → Pipeline β} {g : q.Answer → Except Failure β}
    {t : Transcript} {r : Except Failure β} (h : Runs (ask q >>= k) t r)
    (hk : ∀ a, k a = MonadExcept.ofExcept (g a)) : ∃ a, t = [⟨q, a⟩] ∧ r = g a := by
  obtain ⟨a, behind, rfl, ha⟩ := h.ask_bind
  rw [hk] at ha
  obtain ⟨rfl, rfl⟩ := runs_ofExcept.1 ha
  exact ⟨a, rfl, rfl⟩

/-- A run goes on behind a call that it depends on, or ends with its refusal. -/
theorem Runs.call_bind {ε : Type} {p : Pipeline α} {k : α → Pipeline β} {x : Except ε α → Transcript}
    {g : ε → Failure} {t : Transcript} {r : Except Failure β} (h : Runs (p >>= k) t r)
    (hp : ∀ {t : Transcript} {r : Except Failure α}, Runs p t r → ∃ a, t = x a ∧ r = a.mapError g) :
    (∃ a behind, t = x (.ok a) ++ behind ∧ Runs (k a) behind r) ∨
    (∃ e, t = x (.error e) ∧ r = .error (g e)) := by
  rcases h.bind_cases with ⟨before, a, behind, rfl, hb, hk⟩ | ⟨failure, rfl, hb⟩
  · obtain ⟨answer, rfl, ha⟩ := hp hb
    cases answer with
    | ok a' =>
        obtain rfl : a = a' := Except.ok.inj ha
        exact Or.inl ⟨a, behind, rfl, hk⟩
    | error e => cases ha
  · obtain ⟨answer, rfl, ha⟩ := hp hb
    cases answer with
    | ok a => cases ha
    | error e =>
        obtain rfl : failure = g e := Except.error.inj ha
        exact Or.inr ⟨e, rfl, rfl⟩

/-- A run goes on behind a part of several calls, or ends with the failure of that part. -/
theorem Runs.part_bind {ε ι : Type} {p : Pipeline α} {k : α → Pipeline β}
    {done : ι → α → Transcript} {refused : ε → Transcript} {g : ε → Failure} {t : Transcript}
    {r : Except Failure β} (h : Runs (p >>= k) t r)
    (hp : ∀ {t : Transcript} {r : Except Failure α}, Runs p t r →
      (∃ i a, t = done i a ∧ r = .ok a) ∨ (∃ e, t = refused e ∧ r = .error (g e))) :
    (∃ i a behind, t = done i a ++ behind ∧ Runs (k a) behind r) ∨
    (∃ e, t = refused e ∧ r = .error (g e)) := by
  rcases h.bind_cases with ⟨before, a, behind, rfl, hb, hk⟩ | ⟨failure, rfl, hb⟩
  · rcases hp hb with ⟨i, a', rfl, ha⟩ | ⟨e, rfl, ha⟩
    · obtain rfl : a = a' := Except.ok.inj ha
      exact Or.inl ⟨i, a, behind, rfl, hk⟩
    · cases ha
  · rcases hp hb with ⟨i, a, rfl, ha⟩ | ⟨e, rfl, ha⟩
    · cases ha
    · obtain rfl : failure = g e := Except.error.inj ha
      exact Or.inr ⟨e, rfl, rfl⟩

theorem runs_runTests {options : RunOptions} {t : Transcript} {r : Except Failure PhaseRun}
    (h : Runs (runTests options) t r) :
    ∃ a, t = [⟨.runTests options, a⟩] ∧ r = a.mapError .ofRunner :=
  Runs.ask_ofExcept h fun a => by cases a <;> rfl

theorem runs_runEach {options : RunOptions} {t : Transcript} {r : Except Failure PhaseRun}
    (h : Runs (runEach options) t r) :
    ∃ a, t = [⟨.runEach options, a⟩] ∧ r = a.mapError .ofRunner :=
  Runs.ask_ofExcept h fun a => by cases a <;> rfl

theorem runs_fetch {version : ProviderVersion} {baseBranch : String} {head : Option String}
    {t : Transcript} {r : Except Failure Path} (h : Runs (fetch version baseBranch head) t r) :
    ∃ a, t = [⟨.fetch version baseBranch head, a⟩] ∧
      r = a.mapError fun e => .setup "cassette fetch" e.message :=
  Runs.ask_ofExcept h fun a => by cases a <;> rfl

theorem runs_upload {stage : String} {source : Path} {target : UploadTarget}
    {version : ProviderVersion} {t : Transcript} {r : Except Failure Unit}
    (h : Runs (upload stage source target version) t r) :
    ∃ a, t = [⟨.upload source target version, a⟩] ∧
      r = a.mapError fun e => .setup stage e.message :=
  Runs.ask_ofExcept h fun a => by cases a <;> rfl

/-! ## Calls on the side -/

theorem runs_emit {event : Event} {t : Transcript} {r : Except Failure Unit}
    (h : Runs (emit event) t r) : r = .ok () ∧ t = [emitted event] := by
  obtain ⟨a, rfl, rfl⟩ := runs_ask h
  exact ⟨rfl, rfl⟩

/-- A run goes on behind an event. -/
theorem Runs.emit_bind {event : Event} {k : Unit → Pipeline β} {t : Transcript}
    {r : Except Failure β} (h : Runs (emit event >>= k) t r) :
    ∃ behind, t = emitted event :: behind ∧ Runs (k ()) behind r := by
  obtain ⟨_, behind, rfl, hk⟩ := h.ask_bind
  exact ⟨behind, rfl, hk⟩

theorem runs_uploadLogs {logs : LogUpload} {t : Transcript} {r : Except Failure Unit}
    (h : Runs (uploadLogs logs) t r) : r = .ok () ∧ ∃ a, t = logged logs a := by
  unfold uploadLogs at h
  obtain ⟨a, behind, rfl, hk⟩ := h.ask_bind
  cases a with
  | ok _ =>
      obtain ⟨rfl, rfl⟩ := runs_pure.1 hk
      exact ⟨rfl, .ok (), rfl⟩
  | error e =>
      obtain ⟨rfl, rfl⟩ := runs_emit hk
      exact ⟨rfl, .error e, rfl⟩

theorem runs_postReport {target : ReviewTarget} {text : String} {t : Transcript}
    {r : Except Failure Unit} (h : Runs (postReport target text) t r) :
    r = .ok () ∧ ∃ a, t = commented target text a := by
  unfold postReport at h
  obtain ⟨a, behind, rfl, hk⟩ := h.ask_bind
  cases a with
  | ok _ =>
      obtain ⟨rfl, rfl⟩ := runs_pure.1 hk
      exact ⟨rfl, .ok (), rfl⟩
  | error e =>
      obtain ⟨rfl, rfl⟩ := runs_emit hk
      exact ⟨rfl, .error e, rfl⟩

theorem runs_postStatus {post : StatusPost} {t : Transcript} {r : Except Failure Unit}
    (h : Runs (postStatus post) t r) : r = .ok () ∧ ∃ a, t = shown post a := by
  unfold postStatus at h
  obtain ⟨a, behind, rfl, hk⟩ := h.ask_bind
  cases a with
  | ok _ =>
      obtain ⟨rfl, rfl⟩ := runs_emit hk
      exact ⟨rfl, .ok (), rfl⟩
  | error e =>
      obtain ⟨rfl, rfl⟩ := runs_emit hk
      exact ⟨rfl, .error e, rfl⟩

/-! ## Calls and events -/

/-- Whether a request goes to a collaborator; an event goes to none. -/
@[simp] def Request.isCall : Request → Bool
  | .emit _ => false
  | _ => true

/-- Whether a request goes to the runner or to the cassette store. -/
@[simp] def Request.isTestCall : Request → Bool
  | .runTests _ => true
  | .runEach _ => true
  | .fetch _ _ _ => true
  | .upload _ _ _ => true
  | _ => false

@[simp] theorem request_emitted (event : Event) : (emitted event).request = .emit event := rfl

end Pipeline

namespace Transcript

open Pipeline

/-- The exchanges with collaborators. -/
def calls (t : Transcript) : Transcript := t.filter fun e => e.request.isCall

/-- The exchanges with the runner and the cassette store. -/
def testCalls (t : Transcript) : Transcript := t.filter fun e => e.request.isTestCall

/-- The runs of whole packages that were asked for, with what came of them. -/
def packageCalls (t : Transcript) : List (RunOptions × Except RunnerFault PhaseRun) :=
  t.filterMap fun e =>
    match e with
    | ⟨.runTests options, a⟩ => some (options, a)
    | _ => none

variable (t t' : Transcript) (e : Exchange Request.Answer) (events : List Event)

@[simp] theorem calls_nil : calls [] = [] := rfl

@[simp] theorem testCalls_nil : testCalls [] = [] := rfl

@[simp] theorem statuses_nil : statuses [] = [] := rfl

@[simp] theorem reports_nil : reports [] = [] := rfl

@[simp] theorem calls_append : calls (t ++ t') = calls t ++ calls t' := List.filter_append _ _

@[simp] theorem testCalls_append : testCalls (t ++ t') = testCalls t ++ testCalls t' :=
  List.filter_append _ _

@[simp] theorem statuses_append : statuses (t ++ t') = statuses t ++ statuses t' :=
  List.filterMap_append

@[simp] theorem reports_append : reports (t ++ t') = reports t ++ reports t' :=
  List.filterMap_append

theorem runnerCalls_append : runnerCalls (t ++ t') = runnerCalls t ++ runnerCalls t' :=
  List.filterMap_append

theorem packageCalls_append : packageCalls (t ++ t') = packageCalls t ++ packageCalls t' :=
  List.filterMap_append

@[simp] theorem calls_cons :
    calls (e :: t) = if e.request.isCall then e :: calls t else calls t := List.filter_cons

@[simp] theorem testCalls_cons :
    testCalls (e :: t) = if e.request.isTestCall then e :: testCalls t else testCalls t :=
  List.filter_cons

@[simp] theorem statuses_cons :
    statuses (e :: t) =
      match e.request with
      | .postStatus post => post :: statuses t
      | _ => statuses t := by
  unfold statuses
  rw [List.filterMap_cons]
  cases e.request <;> rfl

@[simp] theorem reports_cons :
    reports (e :: t) =
      match e.request with
      | .postReport _ text => text :: reports t
      | _ => reports t := by
  unfold reports
  rw [List.filterMap_cons]
  cases e.request <;> rfl

/-! What the runner is asked for is among the calls for tests. -/

theorem runnerCalls_testCalls : t.testCalls.runnerCalls = t.runnerCalls := by
  unfold testCalls runnerCalls
  rw [List.filterMap_filter]
  congr 1
  funext e
  cases e.request <;> rfl

theorem packageCalls_testCalls : t.testCalls.packageCalls = t.packageCalls := by
  unfold testCalls packageCalls
  rw [List.filterMap_filter]
  congr 1
  funext e
  obtain ⟨q, a⟩ := e
  cases q <;> rfl

/-! Events are in none of these views. -/

theorem filter_emitted {p : Exchange Request.Answer → Bool} (hp : ∀ event, p (emitted event) = false) :
    (events.map emitted).filter p = [] := by
  rw [List.filter_eq_nil_iff]
  intro e he
  obtain ⟨event, -, rfl⟩ := List.mem_map.1 he
  rw [hp event]
  exact Bool.false_ne_true

theorem filterMap_emitted {γ : Type} {f : Exchange Request.Answer → Option γ}
    (hf : ∀ event, f (emitted event) = none) : (events.map emitted).filterMap f = [] := by
  rw [List.filterMap_eq_nil_iff]
  intro e he
  obtain ⟨event, -, rfl⟩ := List.mem_map.1 he
  exact hf event

@[simp] theorem calls_emitted : calls (events.map emitted) = [] := filter_emitted _ fun _ => rfl

@[simp] theorem testCalls_emitted : testCalls (events.map emitted) = [] :=
  filter_emitted _ fun _ => rfl

@[simp] theorem statuses_emitted : statuses (events.map emitted) = [] :=
  filterMap_emitted _ fun _ => rfl

@[simp] theorem reports_emitted : reports (events.map emitted) = [] :=
  filterMap_emitted _ fun _ => rfl

/-! A call on the side is in the views of its own kind. -/

section Side

variable (logs : LogUpload) (post : StatusPost) (target : ReviewTarget) (text : String)
  (a : Except ServiceFault Unit)

@[simp] theorem testCalls_logged : testCalls (logged logs a) = [] := by
  unfold logged
  rw [testCalls_cons, testCalls_emitted]
  rfl

@[simp] theorem testCalls_commented : testCalls (commented target text a) = [] := by
  unfold commented
  rw [testCalls_cons, testCalls_emitted]
  rfl

@[simp] theorem testCalls_shown : testCalls (shown post a) = [] := by
  unfold shown
  rw [testCalls_cons, testCalls_emitted]
  rfl

@[simp] theorem calls_logged : calls (logged logs a) = [⟨.uploadLogs logs, a⟩] := by
  unfold logged
  rw [calls_cons, calls_emitted]
  rfl

@[simp] theorem calls_commented :
    calls (commented target text a) = [⟨.postReport target text, a⟩] := by
  unfold commented
  rw [calls_cons, calls_emitted]
  rfl

@[simp] theorem calls_shown : calls (shown post a) = [⟨.postStatus post, a⟩] := by
  unfold shown
  rw [calls_cons, calls_emitted]
  rfl

@[simp] theorem statuses_commented : statuses (commented target text a) = [] := by
  unfold commented
  rw [statuses_cons, statuses_emitted]

@[simp] theorem statuses_shown : statuses (shown post a) = [post] := by
  unfold shown
  rw [statuses_cons, statuses_emitted]

@[simp] theorem reports_commented : reports (commented target text a) = [text] := by
  unfold commented
  rw [reports_cons, reports_emitted]

@[simp] theorem reports_shown : reports (shown post a) = [] := by
  unfold shown
  rw [reports_cons, reports_emitted]

end Side

end Transcript

end CassetteGate
