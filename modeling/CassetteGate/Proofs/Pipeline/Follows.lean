import CassetteGate.Proofs.Pipeline.Runs

/-!
# `Proofs.Pipeline.Follows` — calls that follow a plan

A *plan* is a list of exchanges: what is called for, and the answers that let the run go on. A run
follows the plan as long as it gets these answers. It may stop at any point, and it has to stop at
the first call that is answered in another way. So the calls of a run are a beginning of the plan,
except for the answer to the last one of them.

## Contents
- **`Follows`**: the relation of the calls of a run to a plan.
- **`Follows.requests_prefix`**, **`Follows.dropLast_prefix`**: what is asked is a beginning of the
  plan, and what is answered is too, as far as the run went on.
- **`Follows.prefix_of_mem`**: a call of a later part of the plan shows that the earlier part went
  as planned.
- **`Follows.pairwise`**: what the plan never asks behind some exchange is never asked behind it.
-/

namespace CassetteGate

namespace Pipeline

/-- The calls of a run that goes by a plan. -/
inductive Follows : Transcript → Transcript → Prop where
  /-- The run stops. -/
  | stop (plan : Transcript) : Follows [] plan
  /-- The next call is made, and the run stops whatever the answer is. -/
  | last {q : Request} (a b : q.Answer) (plan : Transcript) : Follows [⟨q, a⟩] (⟨q, b⟩ :: plan)
  /-- The next call is answered as planned. -/
  | go (e : Exchange Request.Answer) {calls plan : Transcript} (h : Follows calls plan) :
      Follows (e :: calls) (e :: plan)

namespace Follows

variable {calls plan : Transcript}

/-! ## Longer plans -/

/-- What goes as planned can stand in front. -/
theorem append_left (h : Follows calls plan) (front : Transcript) :
    Follows (front ++ calls) (front ++ plan) := by
  induction front with
  | nil => exact h
  | cons e front ih => exact .go e ih

/-- All of a plan is carried out. -/
theorem refl (plan : Transcript) : Follows plan plan := by
  have := (stop []).append_left plan
  rwa [List.append_nil] at this

/-- A plan that goes on is followed all the same. -/
theorem append_right (h : Follows calls plan) (rest : Transcript) : Follows calls (plan ++ rest) := by
  induction h with
  | stop plan => exact .stop _
  | last a b plan => exact .last a b _
  | go e h ih => exact .go e ih

/-! ## What is known of the calls -/

/-- What is asked is a beginning of what the plan asks. -/
theorem requests_prefix (h : Follows calls plan) :
    calls.map (·.request) <+: plan.map (·.request) := by
  induction h with
  | stop plan => exact List.nil_prefix
  | @last q a b plan => exact List.prefix_append [q] (plan.map (·.request))
  | go e h ih =>
      rw [List.map_cons, List.map_cons]
      exact List.prefix_cons_inj _ |>.2 ih

/-- As far as the run went on, the answers are those of the plan. -/
theorem dropLast_prefix (h : Follows calls plan) : calls.dropLast <+: plan := by
  induction h with
  | stop plan => exact List.nil_prefix
  | last a b plan => exact List.nil_prefix
  | @go e calls plan h ih =>
      cases calls with
      | nil => exact List.nil_prefix
      | cons c calls =>
          rw [List.dropLast_cons_cons]
          exact List.prefix_cons_inj _ |>.2 ih

/-- A call is in the plan, with the planned answer or another one. -/
theorem request_mem (h : Follows calls plan) {q : Request} (hq : q ∈ calls.map (·.request)) :
    q ∈ plan.map (·.request) :=
  h.requests_prefix.subset hq

/-- What is asked, but not by the front of the plan, is asked by the rest. -/
theorem mem_rest {front rest : Transcript} (h : Follows calls (front ++ rest)) {q : Request}
    (hq : q ∈ calls.map (·.request)) (hf : q ∉ front.map (·.request)) :
    q ∈ rest.map (·.request) := by
  have hplan := h.request_mem hq
  rw [List.map_append, List.mem_append] at hplan
  exact hplan.resolve_left hf

/-- **If something is asked that the front of the plan does not ask, the front was carried out.** -/
theorem prefix_of_mem {front rest : Transcript} (h : Follows calls (front ++ rest)) {q : Request}
    (hq : q ∈ calls.map (·.request)) (hf : q ∉ front.map (·.request)) : front <+: calls := by
  induction front generalizing calls with
  | nil => exact List.nil_prefix
  | cons e front ih =>
      rw [List.map_cons, List.mem_cons, not_or] at hf
      cases h with
      | stop => exact absurd hq (by simp)
      | last a b =>
          -- the run stopped in the front, so nothing behind it was asked
          exact absurd (List.mem_singleton.1 hq) hf.1
      | go _ h =>
          rw [List.map_cons, List.mem_cons] at hq
          have later := hq.resolve_left hf.1
          exact List.prefix_cons_inj _ |>.2 (ih h later hf.2)

/-- **What holds between the exchanges of a plan and the requests behind them holds in the calls**: only
    the last call can be answered in another way, and nothing is behind it. -/
theorem pairwise {R : Exchange Request.Answer → Request → Prop} (h : Follows calls plan)
    (hp : plan.Pairwise fun e e' => R e e'.request) : calls.Pairwise fun e e' => R e e'.request := by
  induction h with
  | stop plan => exact List.Pairwise.nil
  | last a b plan => exact List.pairwise_singleton _ _
  | @go e calls plan h ih =>
      obtain ⟨hbehind, hrest⟩ := List.pairwise_cons.1 hp
      refine List.pairwise_cons.2 ⟨fun e' he' => ?_, ih hrest⟩
      have hplanned : e'.request ∈ plan.map (·.request) :=
        h.request_mem (List.mem_map_of_mem he')
      obtain ⟨e'', he'', hsame⟩ := List.mem_map.1 hplanned
      rw [← hsame]
      exact hbehind e'' he''

end Follows

end Pipeline

end CassetteGate
