import CassetteGate.Runner.Phases

/-!
# `Proofs.Runner.Runs` — what a phase does before its tests

A phase asks the machine for things that may be refused: directories, files, a listing of packages.
Two facts are needed of all of this, and both are facts about the exchanges alone. It starts no
workers; and it gives its result if the machine obliges. `Plain` states both at once for a part of a
phase, and passes through sequences, so it is read off the text of each part.

A part may end in a fault only because of an answer that it did not want, and `Plain` has to know
which answers it had. It therefore carries a condition `wanted`, to which each question adds that its
answer was obliging (`plain_ask_bind`); where the part throws, that condition must be false
(`plain_throw`).

## Contents
- **`HostExchange`**, **`Host.Obliging`**, **`Host.Request.startsWorkers`**.
- **`Runner.Plain`**, and how it passes through sequences.
- **`Runner.plain_prepare`**: what comes before every phase.
- **`Runner.Tests`**, **`Runner.tests_of_prepare`**: the packages that are then tested.
-/

namespace CassetteGate

/-- A request of the machine, with its answer. -/
abbrev HostExchange : Type := Exchange Host.Request.Answer

namespace Host

/-- Whether a request starts workers. -/
@[simp] def Request.startsWorkers : Request → Bool
  | .runWorkers _ _ => true
  | _ => false

/-- An answer that grants what was asked for: what should be there is, and what should be done was
    done. There need not be anything to remove. -/
def Obliging : HostExchange → Prop
  | ⟨.isDirectory _, found⟩ => found = true
  | ⟨.createDirectories _, answer⟩ => answer = .ok ()
  | ⟨.removeTree _, answer⟩ => answer = .ok () ∨ answer = .error .notFound
  | ⟨.writeFile _ _, answer⟩ => answer = .ok ()
  | ⟨.appendFile _ _, answer⟩ => answer = .ok ()
  | ⟨.removeFile _, answer⟩ => answer = .ok () ∨ answer = .error .notFound
  | ⟨.readFile _, answer⟩ => ∃ text, answer = .ok text
  | ⟨.execute _, answer⟩ => ∃ output, answer = .ok output ∧ output.success = true
  | ⟨.runWorkers _ _, answer⟩ => ∃ finished, answer = .ok finished
  | ⟨.post _, answer⟩ => ∃ reply, answer = some reply
  | ⟨.pause _, _⟩ => True
  | ⟨.log _, _⟩ => True

end Host

namespace Runner

open Host

variable {α β : Type} {wanted : Prop} {r : Runner} {options : RunOptions}
  {exchanges : List HostExchange}

/-! ## Parts of a phase that start no workers -/

/-- A part of a phase that starts no workers and, if all answers are obliging and its condition
    holds, gives a result. -/
def Plain (wanted : Prop) (p : RunnerProgram α) : Prop :=
  ∀ exchanges result, Program.Yields p.run exchanges result →
    (∀ e ∈ exchanges, e.request.startsWorkers = false) ∧
      (wanted → (∀ e ∈ exchanges, Obliging e) → ∃ a, result = .ok a)

theorem plain_pure (a : α) : Plain wanted (pure a) := by
  intro exchanges result h
  cases h
  exact ⟨nofun, fun _ _ => ⟨a, rfl⟩⟩

/-- A fault stands only where the condition cannot hold. -/
theorem plain_throw {fault : RunnerFault} (hnot : ¬ wanted) :
    Plain wanted (throw fault : RunnerProgram α) := by
  intro exchanges result h
  cases h
  exact ⟨nofun, fun hwanted _ => absurd hwanted hnot⟩

theorem Plain.mono {p : RunnerProgram α} {weaker : Prop} (h : Plain weaker p)
    (hweaker : wanted → weaker) : Plain wanted p := by
  intro exchanges result hrun
  obtain ⟨hquiet, hgives⟩ := h _ _ hrun
  exact ⟨hquiet, fun hwanted => hgives (hweaker hwanted)⟩

theorem Plain.bind {p : RunnerProgram α} {f : α → RunnerProgram β} (hp : Plain wanted p)
    (hf : ∀ a, Plain wanted (f a)) : Plain wanted (p >>= f) := by
  intro exchanges result h
  rcases Program.yields_run_bind_iff.1 h with
    ⟨before, a, behind, hbefore, hbehind, rfl⟩ | ⟨fault, hfault, rfl⟩
  · obtain ⟨hquiet, -⟩ := hp _ _ hbefore
    obtain ⟨hquiet', hgives⟩ := hf a _ _ hbehind
    refine ⟨fun e he => (List.mem_append.1 he).elim (hquiet e) (hquiet' e), ?_⟩
    intro hwanted hobliging
    exact hgives hwanted fun e he => hobliging e (List.mem_append_right before he)
  · obtain ⟨hquiet, hgives⟩ := hp _ _ hfault
    refine ⟨hquiet, ?_⟩
    intro hwanted hobliging
    obtain ⟨a, ha⟩ := hgives hwanted hobliging
    cases ha

/-- Behind a question, the condition says what the answer was like. -/
theorem plain_ask_bind {q : Request} {f : q.Answer → RunnerProgram β}
    (hq : q.startsWorkers = false) (hf : ∀ a, Plain (wanted ∧ Obliging ⟨q, a⟩) (f a)) :
    Plain wanted (ask q >>= f) := by
  intro exchanges result h
  cases h with
  | ask h =>
      obtain ⟨hquiet, hgives⟩ := hf _ _ _ h
      refine ⟨List.forall_mem_cons.2 ⟨hq, hquiet⟩, ?_⟩
      intro hwanted hobliging
      obtain ⟨hanswer, hrest⟩ := List.forall_mem_cons.1 hobliging
      exact hgives ⟨hwanted, hanswer⟩ hrest

/-- An answer about files is passed on, or is a fault. -/
theorem plain_answer (answer : Except OsError α) :
    (wanted → ∃ a, answer = .ok a) →
      Plain wanted (match answer with
        | .ok a => pure a
        | .error e => throw (.file e) : RunnerProgram α) := by
  intro h
  cases answer with
  | ok a => exact plain_pure a
  | error e =>
      refine plain_throw fun hwanted => ?_
      obtain ⟨a, ha⟩ := h hwanted
      cases ha

theorem plain_createDirectories (dir : Path) :
    Plain wanted (onFiles (Host.ask (.createDirectories dir))) :=
  plain_ask_bind rfl fun answer => plain_answer answer fun h => ⟨(), h.2⟩

theorem plain_writeFile (file : Path) (text : String) :
    Plain wanted (onFiles (Host.ask (.writeFile file text))) :=
  plain_ask_bind rfl fun answer => plain_answer answer fun h => ⟨(), h.2⟩

/-- Behind a process, the condition says that it succeeded. -/
theorem plain_execute_bind {command : Command} {f : CommandOutput → RunnerProgram β}
    (hf : ∀ output : CommandOutput, Plain (wanted ∧ output.success = true) (f output)) :
    Plain wanted (execute command >>= f) := by
  unfold execute
  rw [bind_assoc]
  refine plain_ask_bind rfl fun answer => ?_
  cases answer with
  | error e =>
      refine plain_throw ?_
      rintro ⟨-, output, hok, -⟩
      cases hok
  | ok output =>
      rw [pure_bind]
      refine (hf output).mono ?_
      rintro ⟨hwanted, output', hok, hsuccess⟩
      obtain rfl := Except.ok.inj hok
      exact ⟨hwanted, hsuccess⟩

/-! ## Before a phase -/

theorem plain_resetDirectory (dir : Path) : Plain wanted (resetDirectory dir) := by
  refine plain_ask_bind rfl fun answer => ?_
  dsimp only
  split
  · exact plain_createDirectories dir
  · exact plain_createDirectories dir
  · next e hother =>
      refine plain_throw ?_
      rintro ⟨-, hdone | hmissing⟩
      · cases hdone
      · exact hother (Except.error.inj hmissing)

theorem plain_discover (r : Runner) : Plain wanted r.discover := by
  refine plain_execute_bind fun output => ?_
  split
  · exact plain_pure _
  · next hfails => exact plain_throw fun h => hfails h.2

theorem plain_packagesUnderTest (r : Runner) (options : RunOptions) :
    Plain wanted (r.packagesUnderTest options) := by
  unfold packagesUnderTest
  split
  · exact plain_discover r
  · exact plain_pure _

/-- Preparing a phase starts no workers, and goes well on an obliging machine. -/
theorem plain_prepare (r : Runner) (options : RunOptions) : Plain wanted (r.prepare options) := by
  refine plain_ask_bind rfl fun found => ?_
  cases found with
  | false => exact plain_throw fun h => Bool.false_ne_true h.2
  | true =>
      refine (plain_packagesUnderTest r options).bind fun packages => ?_
      have hlogs (dir : Path) : Plain (wanted ∧ Obliging ⟨.isDirectory r.config.layout.repoPath, true⟩)
          (onFiles (Host.ask (.createDirectories dir)) >>= fun _ => pure packages) :=
        (plain_createDirectories dir).bind fun _ => plain_pure packages
      dsimp only
      split
      · exact (plain_resetDirectory options.cassetteDir).bind fun _ => hlogs _
      · exact hlogs _

/-! ## The packages of a phase -/

/-- What a phase tests, as its exchanges tell: the packages that it was given or, if it was given
    none, those of the listing that it asked for. -/
def Tests (r : Runner) (options : RunOptions) (exchanges : List HostExchange)
    (packages : List String) : Prop :=
  if options.testDirs.isEmpty then
    ∃ listing, ⟨.execute r.listCommand, .ok listing⟩ ∈ exchanges ∧
      packages = packagesOf listing.stdout
  else packages = options.testDirs

theorem Tests.mono {packages : List String} {more : List HostExchange}
    (h : r.Tests options exchanges packages) (hsub : ∀ e ∈ exchanges, e ∈ more) :
    r.Tests options more packages := by
  unfold Tests at h ⊢
  split
  · next hnone =>
      rw [if_pos hnone] at h
      obtain ⟨listing, hmem, rfl⟩ := h
      exact ⟨listing, hsub _ hmem, rfl⟩
  · next hsome =>
      rw [if_neg hsome] at h
      exact h

theorem yields_execute_ok {command : Command} {output : CommandOutput}
    (h : Program.Yields (execute command).run exchanges (.ok output)) :
    exchanges = [⟨.execute command, .ok output⟩] := by
  cases h with
  | @ask _ _ answer _ _ h =>
      cases answer with
      | ok output' =>
          cases h
          rfl
      | error e => cases h

theorem tests_of_packagesUnderTest {packages : List String}
    (h : Program.Yields (r.packagesUnderTest options).run exchanges (.ok packages)) :
    r.Tests options exchanges packages := by
  unfold packagesUnderTest at h
  unfold Tests
  split
  · next hnone =>
      rw [if_pos hnone] at h
      rcases Program.yields_run_bind_iff.1 h with
        ⟨before, output, behind, hlisting, hrest, rfl⟩ | ⟨fault, -, hfault⟩
      · obtain rfl := yields_execute_ok hlisting
        refine ⟨output, List.mem_append_left behind (List.mem_singleton.2 rfl), ?_⟩
        split at hrest
        · cases hrest
          rfl
        · cases hrest
      · cases hfault
  · next hsome =>
      rw [if_neg hsome] at h
      cases h
      rfl

/-- A part of a phase that has no other result than `a`. -/
def Returns (a : α) (p : RunnerProgram α) : Prop :=
  ∀ exchanges b, Program.Yields p.run exchanges (.ok b) → b = a

theorem returns_pure (a : α) : Returns a (pure a) := by
  intro exchanges b h
  cases h
  rfl

theorem returns_bind {a : β} {p : RunnerProgram α} {f : α → RunnerProgram β}
    (hf : ∀ x, Returns a (f x)) : Returns a (p >>= f) := by
  intro exchanges b h
  rcases Program.yields_run_bind_iff.1 h with ⟨-, x, behind, -, hbehind, -⟩ | ⟨fault, -, hfault⟩
  · exact hf x behind b hbehind
  · cases hfault

/-- A phase that could be prepared tests the packages that its preparation returned. -/
theorem tests_of_prepare {packages : List String}
    (h : Program.Yields (r.prepare options).run exchanges (.ok packages)) :
    r.Tests options exchanges packages := by
  cases h with
  | @ask _ _ found exchanges _ h =>
      cases found with
      | false => cases h
      | true =>
          rcases Program.yields_run_bind_iff.1 h with
            ⟨before, listed, behind, hlisted, hrest, rfl⟩ | ⟨fault, -, hfault⟩
          · -- what comes behind makes directories and returns the packages as they are
            have hsame : packages = listed := by
              have hlogs (dir : Path) : Returns listed
                  (onFiles (Host.ask (.createDirectories dir)) >>= fun _ => pure listed) :=
                returns_bind fun _ => returns_pure listed
              dsimp only at hrest
              split at hrest
              · exact returns_bind (fun _ => hlogs _) _ _ hrest
              · exact hlogs _ _ _ hrest
            rw [hsame]
            refine (tests_of_packagesUnderTest hlisted).mono fun e he => ?_
            exact List.mem_cons_of_mem _ (List.mem_append_left behind he)
          · cases hfault

end Runner

end CassetteGate
