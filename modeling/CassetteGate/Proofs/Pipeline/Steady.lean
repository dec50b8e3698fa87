import CassetteGate.Proofs.Pipeline.Runs

/-!
# `Proofs.Pipeline.Steady` — parts of a run that calls on the side cannot steer

Two runs of one part may get different answers, and then they may go different ways. A part is *steady*
if only the runner and the cassette store can set its runs apart: as long as these two answer alike, the
runs ask for the same things, and they end in the same result, whatever happens to logs, comments and
statuses.

That two runs are answered alike is not that their calls are the same. It says only that a call which
both of them make, behind the same calls, has the same answer in both (`AnsweredAlike`); that the next
call is the same is for the part to show. Two facts carry the file. The relation holds of the first
parts of two sequences whenever it holds of the sequences, and what stands in front of both in the same
way can be taken off. So steadiness passes through `>>=` and `tryCatch`, and it is read off the text of
a part.

## Contents
- **`Transcript.requests`**: what is asked of collaborators.
- **`AnsweredAlike`**, with **`AnsweredAlike.of_append`** and **`AnsweredAlike.of_append_left`**.
- **`Steady`**, **`Steady.bind`**, **`Steady.tryCatch`**: steady parts, one after the other.
- **`steady_ask`**, **`steady_side`**: calls for tests, and calls on the side.
- **`steady_runTests`** … **`steady_postStatus`**: the operations.
-/

namespace CassetteGate

namespace Transcript

/-- What is asked of collaborators, in order. -/
def requests (t : Transcript) : List Pipeline.Request := t.calls.map (·.request)

theorem requests_append (t t' : Transcript) : requests (t ++ t') = requests t ++ requests t' := by
  unfold requests
  rw [calls_append, List.map_append]

end Transcript

namespace Pipeline

variable {α β : Type} {t t' front : Transcript}

/-! ## Answers alike -/

/-- As long as two histories ask for the same, they get the same answers. -/
def AnsweredAlike : Transcript → Transcript → Prop
  | e :: t, e' :: t' => e.request = e'.request → e = e' ∧ AnsweredAlike t t'
  | _, _ => True

namespace AnsweredAlike

theorem refl (t : Transcript) : AnsweredAlike t t := by
  induction t with
  | nil => trivial
  | cons e t ih => exact fun _ => ⟨rfl, ih⟩

theorem symm (h : AnsweredAlike t t') : AnsweredAlike t' t := by
  induction t generalizing t' with
  | nil => cases t' <;> trivial
  | cons e t ih =>
      cases t' with
      | nil => trivial
      | cons e' t' =>
          intro hq
          obtain ⟨he, ht⟩ := h hq.symm
          exact ⟨he.symm, ih ht⟩

/-- Longer histories are answered alike only if their beginnings are. -/
theorem of_append {rest rest' : Transcript} (h : AnsweredAlike (t ++ rest) (t' ++ rest')) :
    AnsweredAlike t t' := by
  induction t generalizing t' with
  | nil => trivial
  | cons e t ih =>
      cases t' with
      | nil => trivial
      | cons e' t' =>
          intro hq
          obtain ⟨he, ht⟩ := h hq
          exact ⟨he, ih ht⟩

/-- The same for a history that is compared with the beginning of another one. -/
theorem of_append_right {rest : Transcript} (h : AnsweredAlike (t ++ rest) t') :
    AnsweredAlike t t' := by
  rw [← List.append_nil t'] at h
  exact h.of_append

/-- What both histories begin with can be left out. -/
theorem of_append_left (h : AnsweredAlike (front ++ t) (front ++ t')) : AnsweredAlike t t' := by
  induction front with
  | nil => exact h
  | cons e front ih => exact ih (h rfl).2

/-- The same call has the same answer in both histories. -/
theorem answer_eq {q : Request} {a a' : q.Answer} (h : AnsweredAlike [⟨q, a⟩] [⟨q, a'⟩]) : a = a' := by
  obtain ⟨he, -⟩ := h rfl
  cases he
  rfl

end AnsweredAlike

/-! ## Steady parts -/

/-- Two runs of the part that are answered alike by the runner and the cassette store have the same
    calls to them, ask for the same things altogether, and end in the same result. -/
def Steady (p : Pipeline α) : Prop :=
  ∀ ⦃t t' : Transcript⦄ ⦃r r' : Except Failure α⦄, Runs p t r → Runs p t' r' →
    AnsweredAlike t.testCalls t'.testCalls →
    t.testCalls = t'.testCalls ∧ t.requests = t'.requests ∧ r = r'

theorem steady_pure (a : α) : Steady (pure a : Pipeline α) := by
  intro t t' r r' h h' _
  obtain ⟨rfl, rfl⟩ := runs_pure.1 h
  obtain ⟨rfl, rfl⟩ := runs_pure.1 h'
  exact ⟨rfl, rfl, rfl⟩

theorem steady_throw (failure : Failure) : Steady (throw failure : Pipeline α) := by
  intro t t' r r' h h' _
  obtain ⟨rfl, rfl⟩ := runs_throw.1 h
  obtain ⟨rfl, rfl⟩ := runs_throw.1 h'
  exact ⟨rfl, rfl, rfl⟩

/-- Two runs that go on behind a steady part have gone the same way up to there. -/
theorem Steady.join {p : Pipeline α} (hp : Steady p) {before before' behind behind' : Transcript}
    {r r' : Except Failure α} (h : Runs p before r) (h' : Runs p before' r')
    (halike : AnsweredAlike (before ++ behind).testCalls (before' ++ behind').testCalls) :
    r = r' ∧ AnsweredAlike behind.testCalls behind'.testCalls ∧
      (behind.testCalls = behind'.testCalls → behind.requests = behind'.requests →
        (before ++ behind).testCalls = (before' ++ behind').testCalls ∧
        (before ++ behind).requests = (before' ++ behind').requests) := by
  rw [Transcript.testCalls_append, Transcript.testCalls_append] at halike ⊢
  obtain ⟨hcalls, hrequests, hr⟩ := hp h h' halike.of_append
  rw [hcalls] at halike
  refine ⟨hr, halike.of_append_left, ?_⟩
  intro hcalls' hrequests'
  rw [Transcript.requests_append, Transcript.requests_append, hcalls, hcalls', hrequests, hrequests']
  exact ⟨rfl, rfl⟩

/-- **A sequence of steady parts is steady.** -/
theorem Steady.bind {p : Pipeline α} {f : α → Pipeline β} (hp : Steady p)
    (hf : ∀ a, Steady (f a)) : Steady (p >>= f) := by
  intro t t' r r' h h' halike
  rcases h.bind_cases with ⟨before, a, behind, rfl, hb, hk⟩ | ⟨failure, rfl, hb⟩ <;>
    rcases h'.bind_cases with ⟨before', a', behind', rfl, hb', hk'⟩ | ⟨failure', rfl, hb'⟩
  · obtain ⟨ha, hrest, hjoin⟩ := hp.join hb hb' halike
    obtain rfl : a = a' := Except.ok.inj ha
    obtain ⟨hcalls, hrequests, hr⟩ := hf a hk hk' hrest
    obtain ⟨hcalls, hrequests⟩ := hjoin hcalls hrequests
    exact ⟨hcalls, hrequests, hr⟩
  -- one run cannot fail where the other one goes on
  · rw [Transcript.testCalls_append] at halike
    obtain ⟨-, -, ha⟩ := hp hb hb' halike.of_append_right
    cases ha
  · rw [Transcript.testCalls_append] at halike
    obtain ⟨-, -, ha⟩ := hp hb' hb halike.symm.of_append_right
    cases ha
  · obtain ⟨hcalls, hrequests, ha⟩ := hp hb hb' halike
    obtain rfl : failure = failure' := Except.error.inj ha
    exact ⟨hcalls, hrequests, rfl⟩

theorem Steady.map {p : Pipeline α} (hp : Steady p) (g : α → β) : Steady (g <$> p) := by
  rw [← bind_pure_comp]
  exact hp.bind fun a => steady_pure (g a)

/-- A steady part whose failures are mended in a steady way is steady. -/
theorem Steady.tryCatch {p : Pipeline α} {handler : Failure → Pipeline α} (hp : Steady p)
    (hh : ∀ failure, Steady (handler failure)) : Steady (tryCatch p handler) := by
  intro t t' r r' h h' halike
  rcases h.tryCatch_cases with ⟨a, rfl, hb⟩ | ⟨before, failure, behind, rfl, hb, hk⟩ <;>
    rcases h'.tryCatch_cases with ⟨a', rfl, hb'⟩ | ⟨before', failure', behind', rfl, hb', hk'⟩
  · exact hp hb hb' halike
  · rw [Transcript.testCalls_append] at halike
    obtain ⟨-, -, ha⟩ := hp hb' hb halike.symm.of_append_right
    cases ha
  · rw [Transcript.testCalls_append] at halike
    obtain ⟨-, -, ha⟩ := hp hb hb' halike.of_append_right
    cases ha
  · obtain ⟨ha, hrest, hjoin⟩ := hp.join hb hb' halike
    obtain rfl : failure = failure' := Except.error.inj ha
    obtain ⟨hcalls, hrequests, hr⟩ := hh failure hk hk' hrest
    obtain ⟨hcalls, hrequests⟩ := hjoin hcalls hrequests
    exact ⟨hcalls, hrequests, hr⟩

/-! ## The operations -/

/-- A call for tests has the same answer in both runs, since it is the first one of each. -/
theorem steady_ask {q : Request} (hq : q.isTestCall = true) : Steady (ask q) := by
  intro t t' r r' h h' halike
  obtain ⟨a, rfl, rfl⟩ := runs_ask h
  obtain ⟨a', rfl, rfl⟩ := runs_ask h'
  simp only [Transcript.testCalls_cons, Transcript.testCalls_nil, if_pos hq] at halike
  obtain rfl : a = a' := halike.answer_eq
  exact ⟨rfl, rfl, rfl⟩

/-- A part that cannot fail and makes no call for tests is steady if what it asks for does not depend
    on the answers. -/
theorem steady_side {ι : Type} {p : Pipeline Unit} (part : ι → Transcript)
    (hp : ∀ {t : Transcript} {r : Except Failure Unit}, Runs p t r → r = .ok () ∧ ∃ a, t = part a)
    (hnone : ∀ a, (part a).testCalls = [])
    (hsame : ∀ a a', (part a).requests = (part a').requests) : Steady p := by
  intro t t' r r' h h' _
  obtain ⟨rfl, a, rfl⟩ := hp h
  obtain ⟨rfl, a', rfl⟩ := hp h'
  rw [hnone, hnone]
  exact ⟨rfl, hsame a a', rfl⟩

theorem steady_emit (event : Event) : Steady (emit event) :=
  steady_side (fun _ : Unit => [emitted event])
    (fun h => ⟨(runs_emit h).1, (), (runs_emit h).2⟩) (fun _ => rfl) (fun _ _ => rfl)

theorem steady_runTests (options : RunOptions) : Steady (runTests options) :=
  (steady_ask rfl).bind fun a => by
    cases a with
    | ok run => exact steady_pure run
    | error e => exact steady_throw _

theorem steady_runEach (options : RunOptions) : Steady (runEach options) :=
  (steady_ask rfl).bind fun a => by
    cases a with
    | ok run => exact steady_pure run
    | error e => exact steady_throw _

theorem steady_fetch (version : ProviderVersion) (baseBranch : String) (head : Option String) :
    Steady (fetch version baseBranch head) :=
  (steady_ask rfl).bind fun a => by
    cases a with
    | ok dir => exact steady_pure dir
    | error e => exact steady_throw _

theorem steady_upload (stage : String) (source : Path) (target : UploadTarget)
    (version : ProviderVersion) : Steady (upload stage source target version) :=
  (steady_ask rfl).bind fun a => by
    cases a with
    | ok _ => exact steady_pure ()
    | error e => exact steady_throw _

theorem steady_tryUpload (source : Path) (target : UploadTarget) (version : ProviderVersion) :
    Steady (tryUpload source target version) :=
  (steady_ask rfl).bind fun a => by
    cases a with
    | ok _ => exact steady_pure true
    | error e => exact (steady_emit _).bind fun _ => steady_pure false

theorem steady_uploadLogs (logs : LogUpload) : Steady (uploadLogs logs) := by
  refine steady_side (logged logs) runs_uploadLogs (Transcript.testCalls_logged logs) ?_
  intro a a'
  unfold Transcript.requests
  rw [Transcript.calls_logged, Transcript.calls_logged]
  rfl

theorem steady_postReport (target : ReviewTarget) (text : String) :
    Steady (postReport target text) := by
  refine steady_side (commented target text) runs_postReport (Transcript.testCalls_commented target text) ?_
  intro a a'
  unfold Transcript.requests
  rw [Transcript.calls_commented, Transcript.calls_commented]
  rfl

theorem steady_postStatus (post : StatusPost) : Steady (postStatus post) := by
  refine steady_side (shown post) runs_postStatus (Transcript.testCalls_shown post) ?_
  intro a a'
  unfold Transcript.requests
  rw [Transcript.calls_shown, Transcript.calls_shown]
  rfl

end Pipeline

end CassetteGate
