import CassetteGate.Review.Client

/-!
# `Proofs.Review.Retries` — how often a request is sent

A request to the review platform is sent again as long as the answers leave it open whether it will be
granted, and no more often than the settings allow. So what a request does is settled by the first
answer that decides something, or by the last one that may be waited for. `yields_sendAgain_iff` says
this of the loop, by induction on the tries that are left: the first try decides, or it is followed by a
wait and by what one try less comes to.

The loop counts its tries down, and numbers them without a bound. A program that counts them up in 32
bits, and would have to give up where the count overflows, is the same one (`sendCounted_eq`): the count
is increased only while it is below the number of repetitions, which has 32 bits itself.

## Contents
- **`RetryPolicy.Decisive`**, **`WebReply.outcome`**: what a single answer says.
- **`trail`**, **`AnsweredBy`**: the exchanges of a request, and a platform with a sequence of answers.
- **`yields_sendAgain_iff`**, **`sendCounted_eq`**: the loop.
- **`Requests`**, **`EndsAt`**: a request, and the try that it ends with.
- **`Settled`**, and **`send_settled`**: what a request comes to, for all sequences of answers.
-/

namespace CassetteGate

open Program (Yields)

/-! ## Single answers -/

/-- The request was granted. -/
def WebReply.IsSuccess (reply : WebReply) : Prop :=
  200 ≤ reply.status.toNat ∧ reply.status.toNat < 300

instance (reply : WebReply) : Decidable reply.IsSuccess :=
  inferInstanceAs (Decidable (_ ∧ _))

/-- What a request comes to if this is its last answer. -/
def WebReply.outcome : Option WebReply → Except ServiceFault Unit
  | none => .error .transport
  | some reply =>
      if reply.IsSuccess then .ok () else .error (.api "GitHub" reply.status reply.body)

namespace RetryPolicy

/-- There is no other try behind this answer: the request was granted, or its status is not worth one.
    If there is no answer, there is. -/
def Decisive (p : RetryPolicy) : Option WebReply → Prop
  | none => False
  | some reply => reply.IsSuccess ∨ reply.status ∉ p.retryStatuses

instance (p : RetryPolicy) : DecidablePred p.Decisive
  | none => inferInstanceAs (Decidable False)
  | some _ => inferInstanceAs (Decidable (_ ∨ _))

theorem isSuccess_iff {reply : WebReply} :
    (decide (200 ≤ reply.status) && decide (reply.status < 300)) = true ↔ reply.IsSuccess := by
  rw [Bool.and_eq_true, decide_eq_true_iff, decide_eq_true_iff, UInt16.le_iff_toNat_le,
    UInt16.lt_iff_toNat_lt]
  rfl

/-- The three things that an answer can say, and what each of them comes to. -/
theorem judge_cases (p : RetryPolicy) (answer : Option WebReply) :
    (p.Decisive answer ∧ p.judge answer = .accepted ∧ WebReply.outcome answer = .ok ()) ∨
    (∃ e, p.Decisive answer ∧ p.judge answer = .refused e ∧ WebReply.outcome answer = .error e) ∨
    ∃ e, ¬ p.Decisive answer ∧ p.judge answer = .inconclusive e ∧
      WebReply.outcome answer = .error e := by
  cases answer with
  | none => exact Or.inr (Or.inr ⟨_, id, rfl, rfl⟩)
  | some reply =>
      unfold judge WebReply.outcome
      by_cases hs : reply.IsSuccess
      · exact Or.inl ⟨Or.inl hs, if_pos (isSuccess_iff.2 hs), if_pos hs⟩
      · simp only [isSuccess_iff, if_neg hs, List.contains_iff_mem]
        by_cases hworth : reply.status ∈ p.retryStatuses
        · rw [if_pos hworth]
          exact Or.inr (Or.inr ⟨_, not_or.2 ⟨hs, not_not_intro hworth⟩, rfl, rfl⟩)
        · rw [if_neg hworth]
          exact Or.inr (Or.inl ⟨_, Or.inr hworth, rfl, rfl⟩)

end RetryPolicy

namespace ReviewSettings

variable {s : ReviewSettings} {post : WebPost} {answers : Nat → Option WebReply} {left attempt k : Nat}
  {exchanges : List (Exchange Host.Request.Answer)} {result : Except ServiceFault Unit}

/-! ## Exchanges -/

/-- A request that is sent from the try `attempt` on, `k` times without success and once more, with a
    wait behind each of the first `k` tries. -/
def trail (p : RetryPolicy) (post : WebPost) (answers : Nat → Option WebReply) (attempt k : Nat) :
    List (Exchange Host.Request.Answer) :=
  ((List.range' attempt k).flatMap fun i => [⟨.post post, answers i⟩, ⟨.pause (p.backoffMs i), ()⟩])
  ++ [⟨.post post, answers (attempt + k)⟩]

/-- The answers of the platform among some exchanges. -/
def replies (exchanges : List (Exchange Host.Request.Answer)) : List (Option WebReply) :=
  exchanges.filterMap fun
    | ⟨.post _, answer⟩ => some answer
    | _ => none

/-- The platform answers with a sequence of answers, from the one numbered `attempt` on. -/
def AnsweredBy (answers : Nat → Option WebReply) (attempt : Nat)
    (exchanges : List (Exchange Host.Request.Answer)) : Prop :=
  replies exchanges = (List.range' attempt (replies exchanges).length).map answers

theorem trail_zero (p : RetryPolicy) :
    trail p post answers attempt 0 = [⟨.post post, answers attempt⟩] := rfl

theorem trail_succ (p : RetryPolicy) :
    trail p post answers attempt (k + 1) =
      ⟨.post post, answers attempt⟩ :: ⟨.pause (p.backoffMs attempt), ()⟩
        :: trail p post answers (attempt + 1) k := by
  unfold trail
  rw [List.range'_succ, List.flatMap_cons, Nat.add_right_comm, Nat.add_assoc attempt k 1]
  rfl

theorem replies_trail (p : RetryPolicy) :
    replies (trail p post answers attempt k) = (List.range' attempt (k + 1)).map answers := by
  induction k generalizing attempt with
  | zero => rfl
  | succ k ih =>
      rw [trail_succ, List.range'_succ, List.map_cons, ← ih]
      rfl

theorem length_replies_trail (p : RetryPolicy) :
    (replies (trail p post answers attempt k)).length = k + 1 := by
  rw [replies_trail, List.length_map, List.length_range']

theorem answeredBy_trail (p : RetryPolicy) :
    AnsweredBy answers attempt (trail p post answers attempt k) := by
  unfold AnsweredBy
  rw [length_replies_trail, replies_trail]

theorem answeredBy_cons {answer : Option WebReply} :
    AnsweredBy answers attempt (⟨.post post, answer⟩ :: exchanges) ↔
      answer = answers attempt ∧ AnsweredBy answers (attempt + 1) exchanges := by
  have hreplies : replies (⟨.post post, answer⟩ :: exchanges) = answer :: replies exchanges := rfl
  unfold AnsweredBy
  rw [hreplies, List.length_cons, List.range'_succ, List.map_cons, List.cons.injEq]

theorem answeredBy_pause {millis : Nat} :
    AnsweredBy answers attempt (⟨.pause millis, ()⟩ :: exchanges) ↔
      AnsweredBy answers attempt exchanges := Iff.rfl

/-! ## The loop -/

/-- The last answer that may be waited for is returned, whatever it says. -/
theorem sendAgain_zero (s : ReviewSettings) (post : WebPost) (attempt : Nat) :
    s.sendAgain post 0 attempt = (do
      let answer ← Host.ask (.post post)
      return WebReply.outcome answer) := by
  unfold sendAgain
  congr 1
  funext answer
  rcases s.retry.judge_cases answer with
    ⟨-, hjudge, ho⟩ | ⟨e, -, hjudge, ho⟩ | ⟨e, -, hjudge, ho⟩
  · simp only [hjudge, ho]
  · simp only [hjudge, ho]
  · simp only [hjudge, ho]

/-- Any other answer is returned if it decides something; if not, there is a wait and another try. -/
theorem sendAgain_succ (s : ReviewSettings) (post : WebPost) (left attempt : Nat) :
    s.sendAgain post (left + 1) attempt = (do
      let answer ← Host.ask (.post post)
      if s.retry.Decisive answer then return WebReply.outcome answer
      else
        Host.ask (.pause (s.retry.backoffMs attempt))
        s.sendAgain post left (attempt + 1)) := by
  rw [sendAgain]
  congr 1
  funext answer
  rcases s.retry.judge_cases answer with
    ⟨hd, hjudge, ho⟩ | ⟨e, hd, hjudge, ho⟩ | ⟨e, hd, hjudge, -⟩
  · simp only [hjudge, ho, if_pos hd]
  · simp only [hjudge, ho, if_pos hd]
  · simp only [hjudge, if_neg hd]

/-! ### Counting in 32 bits -/

/-- What is below a number of 32 bits can be increased. -/
theorem toNat_succ_of_lt {a b : UInt32} (h : a < b) :
    a.toNat + 1 < UInt32.size ∧ (a + 1).toNat = a.toNat + 1 := by
  have hlt : a.toNat < b.toNat := UInt32.lt_iff_toNat_lt.1 h
  have hb : b.toNat < UInt32.size := b.toNat_lt
  have hfits : a.toNat + 1 < UInt32.size := by omega
  refine ⟨hfits, ?_⟩
  rw [UInt32.toNat_add]
  exact Nat.mod_eq_of_lt hfits

/-- The loop with a count of tries in 32 bits that goes up; there is no result if the count overflows. -/
def sendCounted (s : ReviewSettings) (post : WebPost) (attempt : UInt32) :
    HostProgram (Option (Except ServiceFault Unit)) := do
  match s.retry.judge (← Host.ask (.post post)) with
  | .accepted => return some (.ok ())
  | .refused e => return some (.error e)
  | .inconclusive e =>
      if attempt ≥ s.retry.maxRetries then return some (.error e)
      else
        Host.ask (.pause (s.retry.backoffMs attempt.toNat))
        if attempt.toNat + 1 < UInt32.size then sendCounted s post (attempt + 1) else return none
termination_by s.retry.maxRetries.toNat - attempt.toNat
decreasing_by
  next hleft _ =>
    have hlt : attempt < s.retry.maxRetries := UInt32.not_le.1 hleft
    have hlt' : attempt.toNat < s.retry.maxRetries.toNat := UInt32.lt_iff_toNat_lt.1 hlt
    rw [(toNat_succ_of_lt hlt).2]
    omega

/-- **The count does not overflow**: the loop that would stop there is the one that counts without a
    bound. -/
theorem sendCounted_eq (s : ReviewSettings) (post : WebPost) {attempt : UInt32}
    (h : attempt ≤ s.retry.maxRetries) :
    s.sendCounted post attempt =
      some <$> s.sendAgain post (s.retry.maxRetries.toNat - attempt.toNat) attempt.toNat := by
  have hle : attempt.toNat ≤ s.retry.maxRetries.toNat := UInt32.le_iff_toNat_le.1 h
  -- by induction on the tries that are left; the count is only increased while there are some
  generalize hleft : s.retry.maxRetries.toNat - attempt.toNat = left
  induction left generalizing attempt with
  | zero =>
      have hlast : attempt ≥ s.retry.maxRetries := UInt32.le_iff_toNat_le.2 (by omega)
      unfold sendCounted
      rw [sendAgain_zero, map_bind]
      congr 1
      funext answer
      rcases s.retry.judge_cases answer with
        ⟨-, hjudge, ho⟩ | ⟨e, -, hjudge, ho⟩ | ⟨e, -, hjudge, ho⟩
      · simp only [hjudge, ho, map_pure]
      · simp only [hjudge, ho, map_pure]
      · simp only [hjudge, ho, map_pure, if_pos hlast]
  | succ left ih =>
      have hlt : attempt < s.retry.maxRetries := UInt32.lt_iff_toNat_lt.2 (by omega)
      obtain ⟨hfits, hnext⟩ := toNat_succ_of_lt hlt
      have hrest : s.sendCounted post (attempt + 1) =
          some <$> s.sendAgain post left (attempt.toNat + 1) := by
        rw [← hnext]
        exact ih (UInt32.le_iff_toNat_le.2 (by omega)) (by omega) (by omega)
      unfold sendCounted
      rw [sendAgain_succ, map_bind]
      congr 1
      funext answer
      rcases s.retry.judge_cases answer with
        ⟨hd, hjudge, ho⟩ | ⟨e, hd, hjudge, ho⟩ | ⟨e, hd, hjudge, -⟩
      · simp only [hjudge, ho, if_pos hd, map_pure]
      · simp only [hjudge, ho, if_pos hd, map_pure]
      · have hgoes : ¬ attempt ≥ s.retry.maxRetries := UInt32.not_le.2 hlt
        simp only [hjudge, if_neg hd, if_neg hgoes, if_pos hfits, hrest, map_bind]

/-! ### Runs of the loop -/

theorem yields_ask_iff {q : Host.Request} {next : q.Answer → HostProgram (Except ServiceFault Unit)} :
    Yields (Host.ask q >>= next) exchanges result ↔
      ∃ answer behind, exchanges = ⟨q, answer⟩ :: behind ∧ Yields (next answer) behind result := by
  constructor
  · intro h
    cases h with
    | ask h => exact ⟨_, _, rfl, h⟩
  · rintro ⟨answer, behind, rfl, h⟩
    exact .ask h

theorem yields_return_iff {value : Except ServiceFault Unit} :
    Yields (return value : HostProgram (Except ServiceFault Unit)) exchanges result ↔
      exchanges = [] ∧ result = value := by
  constructor
  · intro h
    cases h
    exact ⟨rfl, rfl⟩
  · rintro ⟨rfl, rfl⟩
    exact .done _

/-- From the try `attempt` on, with `left` more allowed, the one that is `k` further on is the last:
    its answer is the first that decides something, or no other may be waited for. -/
structure LastTry (p : RetryPolicy) (answers : Nat → Option WebReply) (attempt left k : Nat) :
    Prop where
  within : k ≤ left
  before : ∀ i < k, ¬ p.Decisive (answers (attempt + i))
  last : p.Decisive (answers (attempt + k)) ∨ k = left

/-- The first try is the last if its answer decides something, or there is no other. -/
theorem lastTry_zero_iff {p : RetryPolicy} :
    LastTry p answers attempt left 0 ↔ p.Decisive (answers attempt) ∨ left = 0 := by
  constructor
  · intro h
    exact h.last.imp_right Eq.symm
  · intro h
    exact ⟨Nat.zero_le _, fun i hi => absurd hi (Nat.not_lt_zero i), h.imp_right Eq.symm⟩

/-- A later try is the last if the first one decides nothing, and it is the last of the others. -/
theorem lastTry_succ_iff {p : RetryPolicy} :
    LastTry p answers attempt (left + 1) (k + 1) ↔
      ¬ p.Decisive (answers attempt) ∧ LastTry p answers (attempt + 1) left k := by
  have hshift : ∀ i, attempt + 1 + i = attempt + (i + 1) := by
    intro i
    omega
  constructor
  · rintro ⟨hwithin, hbefore, hlast⟩
    refine ⟨hbefore 0 (Nat.succ_pos k), Nat.le_of_succ_le_succ hwithin, ?_, ?_⟩
    · intro i hi
      rw [hshift]
      exact hbefore (i + 1) (Nat.succ_lt_succ hi)
    · rw [hshift]
      exact hlast.imp_right Nat.succ.inj
  · rintro ⟨hfirst, hwithin, hbefore, hlast⟩
    refine ⟨Nat.succ_le_succ hwithin, ?_, ?_⟩
    · intro i hi
      cases i with
      | zero => exact hfirst
      | succ i =>
          rw [← hshift]
          exact hbefore i (Nat.lt_of_succ_lt_succ hi)
    · rw [← hshift]
      exact hlast.imp_right (congrArg Nat.succ)

/-- **The runs of the loop**, with a platform that has these answers: there is a last try, behind it
    is nothing, and what it is answered is what the loop returns. -/
theorem yields_sendAgain_iff (s : ReviewSettings) (post : WebPost) :
    Yields (s.sendAgain post left attempt) exchanges result ∧ AnsweredBy answers attempt exchanges ↔
      ∃ k, LastTry s.retry answers attempt left k ∧
        exchanges = trail s.retry post answers attempt k ∧
        result = WebReply.outcome (answers (attempt + k)) := by
  -- the first try is the last, or the loop is a try, a wait and the loop with one try less
  induction left generalizing attempt exchanges with
  | zero =>
      rw [sendAgain_zero, yields_ask_iff]
      constructor
      · rintro ⟨⟨answer, behind, rfl, hreturn⟩, hby⟩
        obtain ⟨rfl, rfl⟩ := yields_return_iff.1 hreturn
        obtain ⟨rfl, -⟩ := answeredBy_cons.1 hby
        exact ⟨0, lastTry_zero_iff.2 (Or.inr rfl), rfl, rfl⟩
      · rintro ⟨k, hk, rfl, rfl⟩
        obtain rfl : k = 0 := Nat.le_zero.1 hk.within
        exact ⟨⟨answers attempt, [], rfl, .done _⟩, answeredBy_trail s.retry⟩
  | succ left ih =>
      rw [sendAgain_succ, yields_ask_iff]
      constructor
      · rintro ⟨⟨answer, behind, rfl, hgoes⟩, hby⟩
        obtain ⟨rfl, hbehind⟩ := answeredBy_cons.1 hby
        by_cases hd : s.retry.Decisive (answers attempt)
        · rw [if_pos hd] at hgoes
          obtain ⟨rfl, rfl⟩ := yields_return_iff.1 hgoes
          exact ⟨0, lastTry_zero_iff.2 (Or.inl hd), rfl, rfl⟩
        · rw [if_neg hd] at hgoes
          obtain ⟨⟨⟩, rest, rfl, hrest⟩ := yields_ask_iff.1 hgoes
          obtain ⟨k, hk, rfl, rfl⟩ := ih.1 ⟨hrest, answeredBy_pause.1 hbehind⟩
          refine ⟨k + 1, lastTry_succ_iff.2 ⟨hd, hk⟩, (trail_succ s.retry).symm, ?_⟩
          rw [Nat.add_right_comm, Nat.add_assoc]
      · rintro ⟨k, hk, rfl, rfl⟩
        refine ⟨?_, answeredBy_trail s.retry⟩
        cases k with
        | zero =>
            have hd : s.retry.Decisive (answers attempt) :=
              (lastTry_zero_iff.1 hk).resolve_right (Nat.succ_ne_zero left)
            refine ⟨answers attempt, [], rfl, ?_⟩
            rw [if_pos hd]
            exact .done _
        | succ k =>
            obtain ⟨hd, hk⟩ := lastTry_succ_iff.1 hk
            have hindex : attempt + (k + 1) = attempt + 1 + k := by omega
            have hrest := (ih.2 ⟨k, hk, rfl, congrArg (WebReply.outcome ∘ answers) hindex⟩).1
            refine ⟨answers attempt, _, trail_succ s.retry, ?_⟩
            rw [if_neg hd, yields_ask_iff]
            exact ⟨(), _, rfl, hrest⟩

/-! ## Requests -/

/-- The platform that has just the answers of some exchanges, and none behind them. -/
theorem answeredBy_own (exchanges : List (Exchange Host.Request.Answer)) :
    AnsweredBy (fun i => (replies exchanges).getD i none) 0 exchanges := by
  unfold AnsweredBy
  apply List.ext_getElem
  · rw [List.length_map, List.length_range']
  · intro i hi _
    rw [List.getElem_map, List.getElem_range', Nat.zero_add, Nat.one_mul]
    exact (List.getElem_eq_getD none).symm ▸ rfl

/-- A request is made to a platform with these answers, has these exchanges and returns `result`. -/
def Requests (s : ReviewSettings) (url : String) (body : Json) (answers : Nat → Option WebReply)
    (exchanges : List (Exchange Host.Request.Answer)) (result : Except ServiceFault Unit) : Prop :=
  Yields (s.send url body) exchanges result ∧ AnsweredBy answers 0 exchanges

/-- The request is sent `k` times in vain and once more, with the waits of the settings in between,
    and comes to what the last answer says. -/
structure EndsAt (s : ReviewSettings) (url : String) (body : Json)
    (answers : Nat → Option WebReply) (k : Nat) : Prop where
  /-- There is one such run and no other. -/
  only : ∀ exchanges result, s.Requests url body answers exchanges result ↔
    exchanges = trail s.retry ⟨url, s.token, body⟩ answers 0 k ∧
    result = WebReply.outcome (answers k)
  /-- It has `k + 1` answers. -/
  sent : (replies (trail s.retry ⟨url, s.token, body⟩ answers 0 k)).length = k + 1

/-- What a request comes to. -/
structure Settled (s : ReviewSettings) (url : String) (body : Json)
    (answers : Nat → Option WebReply) : Prop where
  /-- The first answer that decides something ends it, if it comes in time. -/
  decided : ∀ k ≤ s.retry.maxRetries.toNat, s.retry.Decisive (answers k) →
    (∀ i < k, ¬ s.retry.Decisive (answers i)) → EndsAt s url body answers k
  /-- If there is none, the last answer that may be waited for does. -/
  exhausted : (∀ i ≤ s.retry.maxRetries.toNat, ¬ s.retry.Decisive (answers i)) →
    EndsAt s url body answers s.retry.maxRetries.toNat
  /-- It is never sent more often, whatever the platform does. -/
  bounded : ∀ exchanges result, Yields (s.send url body) exchanges result →
    (replies exchanges).length ≤ s.retry.maxRetries.toNat + 1
  /-- A count of its tries in 32 bits does not overflow. -/
  counted : s.sendCounted ⟨url, s.token, body⟩ 0 = some <$> s.send url body

/-- The last try of a request, if it is the only one that can be, is where the request ends. -/
theorem endsAt_of_lastTry {s : ReviewSettings} {url : String} {body : Json}
    (hk : LastTry s.retry answers 0 s.retry.maxRetries.toNat k)
    (honly : ∀ j, LastTry s.retry answers 0 s.retry.maxRetries.toNat j → j = k) :
    EndsAt s url body answers k := by
  refine ⟨fun exchanges result => ?_, length_replies_trail s.retry⟩
  constructor
  · intro h
    obtain ⟨j, hj, htrail, hresult⟩ := (yields_sendAgain_iff s ⟨url, s.token, body⟩).1 h
    obtain rfl := honly j hj
    rw [Nat.zero_add] at hresult
    exact ⟨htrail, hresult⟩
  · rintro ⟨htrail, hresult⟩
    refine (yields_sendAgain_iff s ⟨url, s.token, body⟩).2 ⟨k, hk, htrail, ?_⟩
    rw [Nat.zero_add]
    exact hresult

/-- There is only one last try: an earlier one decides nothing, and a later one is behind it. -/
theorem LastTry.unique {p : RetryPolicy} {j : Nat} (hj : LastTry p answers attempt left j)
    (hk : LastTry p answers attempt left k) : j = k := by
  -- neither can be behind the other
  have hle : ∀ {a b : Nat}, LastTry p answers attempt left a → LastTry p answers attempt left b →
      a ≤ b := by
    intro a b ha hb
    refine Nat.le_of_not_lt fun hba => ?_
    rcases hb.last with hd | rfl
    · exact ha.before b hba hd
    · exact absurd ha.within (Nat.not_le.2 hba)
  exact Nat.le_antisymm (hle hj hk) (hle hk hj)

/-- **What a request comes to**, for all sequences of answers: it ends at the first answer that
    decides something, or at the last one that may be waited for. -/
theorem send_settled (s : ReviewSettings) (url : String) (body : Json)
    (answers : Nat → Option WebReply) : Settled s url body answers where
  decided := by
    intro k hk hd hbefore
    have hlast : LastTry s.retry answers 0 s.retry.maxRetries.toNat k :=
      ⟨hk, by simpa only [Nat.zero_add] using hbefore, Or.inl (by rwa [Nat.zero_add])⟩
    exact endsAt_of_lastTry hlast fun j hj => hj.unique hlast
  exhausted := by
    intro hnone
    have hlast : LastTry s.retry answers 0 s.retry.maxRetries.toNat s.retry.maxRetries.toNat := by
      refine ⟨Nat.le_refl _, fun i hi => ?_, Or.inr rfl⟩
      rw [Nat.zero_add]
      exact hnone i (Nat.le_of_lt hi)
    exact endsAt_of_lastTry hlast fun j hj => hj.unique hlast
  bounded := by
    intro exchanges result h
    obtain ⟨k, hk, htrail, -⟩ := (yields_sendAgain_iff s _).1 ⟨h, answeredBy_own exchanges⟩
    rw [htrail, length_replies_trail]
    exact Nat.succ_le_succ hk.within
  counted := by
    have hzero : (0 : UInt32) ≤ s.retry.maxRetries := UInt32.le_iff_toNat_le.2 (Nat.zero_le _)
    exact sendCounted_eq s _ hzero

/-- Settings that are otherwise at their defaults, and a platform that is out of order, then does not
    answer, and then does not find what it is asked for: the third answer decides, before the settings
    would give up. -/
theorem send_settled_refused :
    let s := ReviewSettings.ofToken "t"
    let post : WebPost := ⟨"http://localhost/", "t", .null⟩
    let answers : Nat → Option WebReply := fun i =>
      if i = 0 then some ⟨503, "later"⟩ else if i = 1 then none else some ⟨404, "unknown"⟩
    s.Requests "http://localhost/" .null answers
      [⟨.post post, some ⟨503, "later"⟩⟩, ⟨.pause 5000, ()⟩, ⟨.post post, none⟩, ⟨.pause 10000, ()⟩,
        ⟨.post post, some ⟨404, "unknown"⟩⟩]
      (.error (.api "GitHub" 404 "unknown")) := by
  intro s post answers
  have hdecides : s.retry.Decisive (answers 2) := by decide
  have hbefore : ∀ i < 2, ¬ s.retry.Decisive (answers i) := by decide
  have hends : s.EndsAt "http://localhost/" .null answers 2 :=
    (send_settled s "http://localhost/" .null answers).decided 2 (by decide) hdecides hbefore
  have hfirst : s.retry.backoffMs 0 = 5000 := by decide
  have hsecond : s.retry.backoffMs 1 = 10000 := by decide
  refine (hends.only _ _).2 ⟨?_, rfl⟩
  rw [trail_succ, trail_succ, trail_zero, hfirst, hsecond]
  rfl

end ReviewSettings

end CassetteGate
