/-!
# `Program.Basic` — programs that ask their surroundings

A program computes, asks a question, goes on with the answer, and so forth until it is done. What
may be asked is a type of requests; the type of each answer depends on the request. A program says
nothing about who answers: the same program runs against scripted answers, against a machine held
in memory, or against a program for every request.

## Contents
- **`Program`**: a tree of requests and continuations, and its monad.
- **`Exchange`**: a request together with its answer.
- **`Yields`**: which exchanges a program can have, and what it returns then, whatever the
  surroundings do.
- **`play`**: a run against a handler with a state.
- **`handle`**: every request carried out by another program.
-/

namespace CassetteGate

/-- A program whose requests `q` are answered by values of type `Answer q`. -/
inductive Program {Request : Type} (Answer : Request → Type) (α : Type) : Type where
  /-- The program is done. -/
  | done (a : α)
  /-- The program asks, and goes on with the answer. -/
  | ask (q : Request) (next : Answer q → Program Answer α)

/-- A request and the answer to it. -/
structure Exchange {Request : Type} (Answer : Request → Type) where
  /-- What was asked. -/
  request : Request
  /-- What was answered. -/
  answer : Answer request

namespace Program

variable {Request : Type} {Answer : Request → Type} {α β : Type}

/-! ## The monad -/

/-- One program after the other. -/
def bind : Program Answer α → (α → Program Answer β) → Program Answer β
  | .done a, f => f a
  | .ask q next, f => .ask q fun answer => (next answer).bind f

instance : Monad (Program Answer) where
  pure := .done
  bind := bind

/-- The program that asks one question and returns the answer. -/
def request (q : Request) : Program Answer (Answer q) := .ask q .done

@[simp] theorem pure_eq_done (a : α) : (pure a : Program Answer α) = .done a := rfl

@[simp] theorem done_bind (a : α) (f : α → Program Answer β) : (Program.done a >>= f) = f a := rfl

@[simp] theorem ask_bind (q : Request) (next : Answer q → Program Answer α)
    (f : α → Program Answer β) :
    (Program.ask q next >>= f) = .ask q fun answer => next answer >>= f := rfl

theorem bind_done (p : Program Answer α) : (p >>= Program.done) = p := by
  induction p with
  | done a => rfl
  | ask q next ih =>
      rw [ask_bind]
      congr 1
      funext answer
      exact ih answer

theorem bind_assoc' {γ : Type} (p : Program Answer α) (f : α → Program Answer β)
    (g : β → Program Answer γ) : (p >>= f >>= g) = p >>= fun a => f a >>= g := by
  induction p with
  | done a => rfl
  | ask q next ih =>
      rw [ask_bind, ask_bind, ask_bind]
      congr 1
      funext answer
      exact ih answer

instance : LawfulMonad (Program Answer) :=
  LawfulMonad.mk' _ bind_done (fun _ _ => rfl) bind_assoc'

/-! ## Runs -/

/-- `Yields p exchanges a`: in some surroundings the program has these exchanges, in this order,
    and returns `a`. -/
inductive Yields : Program Answer α → List (Exchange Answer) → α → Prop where
  /-- A program that is done has no exchange. -/
  | done (a : α) : Yields (.done a) [] a
  /-- Any answer to a request may be given. -/
  | ask {q : Request} {next : Answer q → Program Answer α} {answer : Answer q}
      {exchanges : List (Exchange Answer)} {a : α} (h : Yields (next answer) exchanges a) :
      Yields (.ask q next) (⟨q, answer⟩ :: exchanges) a

/-- What a run against a handler leaves behind. -/
structure Played (Answer : Request → Type) (σ α : Type) where
  /-- What the program returned. -/
  result : α
  /-- The exchanges, in order. -/
  exchanges : List (Exchange Answer)
  /-- The state that the handler was left in. -/
  state : σ

/-- Runs a program against a handler that keeps a state. -/
def play {σ : Type} (handler : (q : Request) → σ → Answer q × σ) :
    Program Answer α → σ → Played Answer σ α
  | .done a, s => ⟨a, [], s⟩
  | .ask q next, s =>
      let (answer, s) := handler q s
      let rest := play handler (next answer) s
      { rest with exchanges := ⟨q, answer⟩ :: rest.exchanges }

/-- What a handler plays is a run of the program. -/
theorem yields_play {σ : Type} (handler : (q : Request) → σ → Answer q × σ)
    (p : Program Answer α) (s : σ) :
    Yields p (p.play handler s).exchanges (p.play handler s).result := by
  induction p generalizing s with
  | done a => exact .done a
  | ask q next ih => exact .ask (ih (handler q s).1 (handler q s).2)

/-- A run of a sequence is a run of the first program followed by one of the second. -/
theorem yields_bind_iff {p : Program Answer α} {f : α → Program Answer β}
    {exchanges : List (Exchange Answer)} {b : β} :
    Yields (p >>= f) exchanges b ↔
      ∃ before a behind, Yields p before a ∧ Yields (f a) behind b ∧
        exchanges = before ++ behind := by
  induction p generalizing exchanges with
  | done a =>
      rw [done_bind]
      constructor
      · intro h
        exact ⟨[], a, exchanges, .done a, h, rfl⟩
      · rintro ⟨before, a', behind, hp, hf, rfl⟩
        cases hp
        exact hf
  | ask q next ih =>
      rw [ask_bind]
      constructor
      · intro h
        cases h with
        | ask h =>
            obtain ⟨before, a, behind, hp, hf, rfl⟩ := (ih _).1 h
            exact ⟨⟨q, _⟩ :: before, a, behind, .ask hp, hf, rfl⟩
      · rintro ⟨before, a, behind, hp, hf, rfl⟩
        cases hp with
        | ask hp => exact .ask ((ih _).2 ⟨_, a, behind, hp, hf, rfl⟩)

/-- A run of a sequence that a fault may end is a run of the first part that goes on in the second,
    or a run of the first part that ends in a fault. -/
theorem yields_run_bind_iff {ε : Type} {p : ExceptT ε (Program Answer) α}
    {f : α → ExceptT ε (Program Answer) β} {exchanges : List (Exchange Answer)}
    {result : Except ε β} :
    Yields (p >>= f).run exchanges result ↔
      (∃ before a behind, Yields p.run before (.ok a) ∧ Yields (f a).run behind result ∧
        exchanges = before ++ behind) ∨
      ∃ fault, Yields p.run exchanges (.error fault) ∧ result = .error fault := by
  rw [ExceptT.run_bind, yields_bind_iff]
  constructor
  · rintro ⟨before, a, behind, hp, hf, rfl⟩
    cases a with
    | ok a => exact .inl ⟨before, a, behind, hp, hf, rfl⟩
    | error fault =>
        -- a fault skips the second part, which has no exchange then
        cases hf
        rw [List.append_nil]
        exact .inr ⟨fault, hp, rfl⟩
  · rintro (⟨before, a, behind, hp, hf, rfl⟩ | ⟨fault, hp, rfl⟩)
    · exact ⟨before, .ok a, behind, hp, hf, rfl⟩
    · exact ⟨exchanges, .error fault, [], hp, .done _, (List.append_nil _).symm⟩

/-! ## Programs for requests -/

/-- Carries out every request by a program that may ask for other things. -/
def handle {Request' : Type} {Answer' : Request' → Type}
    (handler : (q : Request) → Program Answer' (Answer q)) : Program Answer α → Program Answer' α
  | .done a => .done a
  | .ask q next => (handler q).bind fun answer => (next answer).handle handler

end Program

end CassetteGate
