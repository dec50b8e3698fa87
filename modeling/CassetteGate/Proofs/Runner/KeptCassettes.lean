import CassetteGate.Proofs.Runner.InTurn
import CassetteGate.Proofs.Runner.Preparation

/-!
# `Proofs.Runner.KeptCassettes` — when old cassettes are removed, and when they are kept

A recording costs hours, and starts by removing the one before. If it then turns out that there is no
checkout, or that nobody can say what to test, the old cassettes are gone and there are no new ones. So
they are removed as late as possible: when all that can be known beforehand is known, and before the
first test writes new ones (`Warranted`). A replay reads cassettes, and must not change them at all.

Both follow from the course of a phase. What comes before its cassettes are removed are questions, and
what comes behind them removes nothing: so there is one place for a removal at most, and all that must
be known stands in front of it. And if it is given up in front of that place, nothing but questions were
asked.

## Contents
- **`Runner.front`**, **`Runner.removals`**: the questions at the start, and what is removed.
- **`Runner.Warranted`**, **`Runner.Abandoned`**: what must be known, and that it is not.
- **`Runner.KeepsCassettes`**, and **`keepsCassettes_of_phases`**.
-/

namespace CassetteGate

/-! ## Kinds of request -/

namespace Host

variable {q : Request}

/-- Requests of all kinds that a phase has remove nothing, but for the one that is meant to. -/
theorem Request.removal?_eq_none (h : q.changesNothing = true ∨ q.makesReady = true ∨
    q.startsTests = true ∨ q.keepsOutput = true) : q.removal? = none := by
  cases q with
  | removeTree path => rcases h with h | h | h | h <;> cases h
  | removeFile path => rcases h with h | h | h | h <;> cases h
  | _ => rfl

theorem Request.keepsFiles_of_makesReady (h : q.makesReady = true) : q.KeepsFiles := by
  cases q with
  | createDirectories dir => exact .inr ⟨dir, rfl⟩
  | log line => exact .inl rfl
  | _ => cases h

end Host

namespace Runner

open Host Program

variable {r : Runner} {options : RunOptions} {packages : List String}
  {exchanges listing wipe opening tests before behind : List HostExchange} {phase : RunnerProgram PhaseRun}
  {result : Except RunnerFault PhaseRun} {listed : Except RunnerFault (List String)}

/-! ## Before anything changes -/

/-- What a phase asks when it has found its checkout, until its packages are known. -/
def front (r : Runner) (listing : List HostExchange) : List HostExchange :=
  ⟨.isDirectory r.config.layout.repoPath, true⟩ :: listing

theorem Discovery.request_eq (h : Discovery r listing listed) :
    ∀ e ∈ listing, e.request = .execute r.listCommand := by
  cases h with
  | listed hsuccess => exact List.forall_mem_singleton.2 rfl
  | failed hfails => exact List.forall_mem_singleton.2 rfl
  | notLaunched => exact List.forall_mem_singleton.2 rfl

theorem Listing.request_eq (h : Listing r options listing listed) :
    ∀ e ∈ listing, e.request = .execute r.listCommand := by
  cases h with
  | given hsome => exact List.forall_mem_nil _
  | discovered hnone hdiscovery => exact hdiscovery.request_eq

theorem Listing.changesNothing (h : Listing r options listing listed) :
    ∀ e ∈ r.front listing, e.request.changesNothing = true := by
  refine List.forall_mem_cons.2 ⟨rfl, fun e he => ?_⟩
  rw [h.request_eq e he]
  rfl

theorem Listing.startsNoTests (h : Listing r options listing listed) :
    ∀ e ∈ r.front listing, e.request.startsTests = false := by
  refine List.forall_mem_cons.2 ⟨rfl, fun e he => ?_⟩
  rw [h.request_eq e he]
  rfl

theorem Start.startsTests {q : Request} (h : Start r options packages q) : q.startsTests = true := by
  cases h with
  | together hcommand =>
      obtain ⟨deadline, -, rfl⟩ := Option.map_eq_some_iff.1 hcommand
      rfl
  | apart hworkers => rfl

/-! ## One place for a removal -/

/-- What is removed. -/
def removals (exchanges : List HostExchange) : List Path :=
  exchanges.filterMap fun e => e.request.removal?

theorem removals_append : removals (before ++ behind) = removals before ++ removals behind :=
  List.filterMap_append

theorem removals_eq_nil_iff : removals exchanges = [] ↔ ∀ e ∈ exchanges, e.request.removal? = none :=
  List.filterMap_eq_nil_iff

theorem Listing.removesNothing (h : Listing r options listing listed) :
    removals (r.front listing) = [] :=
  removals_eq_nil_iff.2 fun e he => Request.removal?_eq_none (.inl (h.changesNothing e he))

theorem removals_of_makesReady (h : ∀ e ∈ opening, e.request.makesReady = true) :
    removals opening = [] :=
  removals_eq_nil_iff.2 fun e he => Request.removal?_eq_none (.inr (.inl (h e he)))

theorem Tested.removesNothing (h : Tested r options packages tests result) : removals tests = [] := by
  cases h with
  | unstarted => rfl
  | started hstart hlogs hresult =>
      refine removals_eq_nil_iff.2 (List.forall_mem_cons.2 ⟨?_, fun e he => ?_⟩)
      · exact Request.removal?_eq_none (.inr (.inr (.inl hstart.startsTests)))
      · exact Request.removal?_eq_none (.inr (.inr (.inr (hlogs e he))))

/-- Room is made for cassettes at most once. -/
theorem Wipe.removals_cases (h : Wipe options wipe) :
    removals wipe = [] ∨ removals wipe = [options.cassetteDir] := by
  cases h with
  | kept => exact .inl rfl
  | wiped hmode hremade =>
      refine .inr ?_
      rw [← List.singleton_append, removals_append, removals_of_makesReady hremade]
      rfl

/-- Whatever comes behind the questions of a phase and the room that it makes for cassettes. -/
theorem removals_behind (hopening : ∀ e ∈ opening, e.request.makesReady = true)
    (htests : Tested r options packages tests result) : removals (opening ++ tests) = [] := by
  rw [removals_append, removals_of_makesReady hopening, htests.removesNothing, List.append_nil]

/-! ## What must be known before -/

/-- All that must be known before cassettes are removed is known, and no test was started. -/
structure Warranted (r : Runner) (options : RunOptions) (before : List HostExchange) : Prop where
  /-- New ones are to be recorded. -/
  recording : options.mode = .recording
  /-- There is a checkout. -/
  checkout : ⟨.isDirectory r.config.layout.repoPath, true⟩ ∈ before
  /-- It is known what to test. -/
  known : options.testDirs ≠ [] ∨
    ∃ output, output.success = true ∧ ⟨.execute r.listCommand, .ok output⟩ ∈ before
  /-- Nothing is tested yet. -/
  untested : ∀ e ∈ before, e.request.startsTests = false

theorem Listing.warranted (h : Listing r options listing (.ok packages))
    (hmode : options.mode = .recording) : Warranted r options (r.front listing) where
  recording := hmode
  checkout := List.mem_cons_self
  known := by
    cases h with
    | given hsome => exact .inl hsome
    | discovered hnone hdiscovery =>
        cases hdiscovery with
        | @listed output hsuccess =>
            exact .inr ⟨output, hsuccess, List.mem_cons_of_mem _ List.mem_cons_self⟩
  untested := h.startsNoTests

theorem notMem_of_removes {e : HostExchange} {dir : Path} (hremoves : e.request.removal? = some dir)
    (h : removals exchanges = []) : e ∉ exchanges := by
  intro hmem
  rw [removals_eq_nil_iff.1 h e hmem] at hremoves
  cases hremoves

/-- If cassettes are kept, a phase removes nothing. -/
theorem removals_of_kept (hlisting : Listing r options listing listed)
    (hopening : ∀ e ∈ opening, e.request.makesReady = true) (htests : Tested r options packages tests result) :
    removals (r.front listing ++ (opening ++ tests)) = [] := by
  rw [removals_append, hlisting.removesNothing, removals_behind hopening htests, List.append_nil]

theorem Course.removals_cases (h : Course r options exchanges result) :
    removals exchanges = [] ∨ removals exchanges = [options.cassetteDir] := by
  cases h with
  | noRepository => exact .inl rfl
  | unlisted hlisting => exact .inl hlisting.removesNothing
  | @known listing wipe opening tests packages _ hlisting hwipe hopening htests =>
      have hsame : removals (r.front listing ++ (wipe ++ (opening ++ tests))) = removals wipe := by
        rw [removals_append, removals_append, hlisting.removesNothing, removals_behind hopening htests,
          List.append_nil, List.nil_append]
      exact hsame ▸ hwipe.removals_cases

/-- What is removed stands behind the questions of a phase, and nowhere else. -/
theorem Course.warranted {e : HostExchange} {dir : Path}
    (h : Course r options (before ++ e :: behind) result) (hremoves : e.request.removal? = some dir) :
    Warranted r options before := by
  have hmem : e ∈ before ++ e :: behind := List.mem_append_right before List.mem_cons_self
  generalize hsplit : before ++ e :: behind = exchanges at h hmem
  cases h with
  | noRepository => exact absurd hmem (notMem_of_removes hremoves rfl)
  | unlisted hlisting => exact absurd hmem (notMem_of_removes hremoves hlisting.removesNothing)
  | @known listing wipe opening tests packages _ hlisting hwipe hopening htests =>
      cases hwipe with
      | kept =>
          have hnone := removals_of_kept hlisting hopening htests
          exact absurd hmem (notMem_of_removes hremoves hnone)
      | @wiped answer remade hmode hremade =>
          have hbehind : removals (remade ++ (opening ++ tests)) = [] := by
            rw [removals_append, removals_of_makesReady hremade, removals_behind hopening htests,
              List.append_nil]
          have hparts : r.front listing ++
              ⟨.removeTree options.cassetteDir, answer⟩ :: (remade ++ (opening ++ tests)) =
              before ++ e :: behind := hsplit.symm
          -- two splits of one list at a removal, of which there is no other
          obtain ⟨rfl, -, -⟩ := (List.append_cons_inj_of_notMem
            (notMem_of_removes hremoves hlisting.removesNothing)
            (notMem_of_removes hremoves hbehind)).1 hparts
          exact hlisting.warranted hmode

/-! ## Replays -/

/-- Up to the first request that starts tests, there is none of those that tests consist of. -/
theorem Tested.mem_of_untested (h : Tested r options packages tests result)
    (hsplit : exchanges ++ tests = before ++ behind)
    (huntested : ∀ e ∈ before, e.request.startsTests = false) : ∀ e ∈ before, e ∈ exchanges := by
  intro e he
  rcases List.append_eq_append_iff.1 hsplit with ⟨rest, rfl, htests⟩ | ⟨rest, rfl, -⟩
  · cases h with
    | unstarted =>
        obtain ⟨rfl, rfl⟩ := List.append_eq_nil_iff.1 htests.symm
        rwa [List.append_nil] at he
    | started hstart hlogs hresult =>
        cases rest with
        | nil => rwa [List.append_nil] at he
        | cons first rest =>
            -- the first of the tests would stand before the tests
            obtain ⟨rfl, -⟩ := List.cons.inj htests
            have hfirst := huntested _ (List.mem_append_right exchanges List.mem_cons_self)
            rw [hstart.startsTests] at hfirst
            cases hfirst
  · exact List.mem_append_left rest he

/-- A phase that does not record keeps all files, until it starts its tests. -/
theorem Course.keepsFiles (h : Course r options (before ++ behind) result)
    (hmode : options.mode ≠ .recording) (huntested : ∀ e ∈ before, e.request.startsTests = false) :
    ∀ e ∈ before, e.request.KeepsFiles := by
  have hsub : ∀ e ∈ before, e ∈ before ++ behind := fun e he => List.mem_append_left behind he
  generalize hsplit : before ++ behind = exchanges at h hsub
  cases h with
  | noRepository =>
      intro e he
      obtain rfl := List.mem_singleton.1 (hsub e he)
      exact .inl rfl
  | unlisted hlisting => exact fun e he => .inl (hlisting.changesNothing e (hsub e he))
  | @known listing wipe opening tests packages _ hlisting hwipe hopening htests =>
      cases hwipe with
      | wiped hrecording hremade => exact absurd hrecording hmode
      | kept =>
          have hparts : (r.front listing ++ opening) ++ tests = before ++ behind := by
            rw [hsplit, List.append_assoc]
            rfl
          intro e he
          have hmem := htests.mem_of_untested hparts huntested e he
          rcases List.mem_append.1 hmem with hfront | hready
          · exact .inl (hlisting.changesNothing e hfront)
          · exact Request.keepsFiles_of_makesReady (hopening e hready)

/-! ## Phases that are given up -/

/-- A phase that is given up, because there is no checkout or nobody can say what there is to test. -/
inductive Abandoned (r : Runner) : List HostExchange → Except RunnerFault PhaseRun → Prop where
  /-- There is no checkout. -/
  | noRepository {exchanges : List HostExchange} {path : Path} :
      Abandoned r exchanges (.error (.repoNotConfigured path))
  /-- Its packages could not be listed. -/
  | notListed {exchanges : List HostExchange} {reason : String} :
      Abandoned r exchanges (.error (.packageDiscovery reason))
  /-- The program that lists them could not be started. -/
  | notLaunched {exchanges : List HostExchange} {result : Except RunnerFault PhaseRun} {cause : OsError}
      (h : ⟨.execute r.listCommand, .error cause⟩ ∈ exchanges) : Abandoned r exchanges result

theorem ne_execute_listCommand {q : Request}
    (h : q.makesReady = true ∨ q.startsTests = true ∨ q.keepsOutput = true) :
    q ≠ .execute r.listCommand := by
  rintro rfl
  rcases h with h | h | h <;> cases h

/-- If packages are known, it is not for want of a program. -/
theorem Listing.notMem_of_ok {cause : OsError} (h : Listing r options listing (.ok packages)) :
    ⟨.execute r.listCommand, .error cause⟩ ∉ r.front listing := by
  intro hmem
  rcases List.mem_cons.1 hmem with hfirst | hlisting
  · cases hfirst
  · cases h with
    | given hsome => cases hlisting
    | discovered hnone hdiscovery =>
        cases hdiscovery with
        | listed hsuccess => cases List.mem_singleton.1 hlisting

theorem Wipe.request_ne (h : Wipe options wipe) : ∀ e ∈ wipe, e.request ≠ .execute r.listCommand := by
  cases h with
  | kept => exact List.forall_mem_nil _
  | wiped hmode hremade =>
      exact List.forall_mem_cons.2 ⟨nofun, fun e he => ne_execute_listCommand (.inl (hremade e he))⟩

theorem Tested.request_ne (h : Tested r options packages tests result) :
    ∀ e ∈ tests, e.request ≠ .execute r.listCommand := by
  cases h with
  | unstarted => exact List.forall_mem_nil _
  | started hstart hlogs hresult =>
      refine List.forall_mem_cons.2 ⟨?_, fun e he => ?_⟩
      · exact ne_execute_listCommand (.inr (.inl hstart.startsTests))
      · exact ne_execute_listCommand (.inr (.inr (hlogs e he)))

/-- A phase that is given up only asked questions. -/
theorem Course.changesNothing (h : Course r options exchanges result)
    (habandoned : Abandoned r exchanges result) : ∀ e ∈ exchanges, e.request.changesNothing = true := by
  cases h with
  | noRepository => exact List.forall_mem_singleton.2 rfl
  | unlisted hlisting => exact hlisting.changesNothing
  | @known listing wipe opening tests packages _ hlisting hwipe hopening htests =>
      cases habandoned with
      | noRepository => cases htests.ofCheckout_eq_false
      | notListed => cases htests.ofCheckout_eq_false
      | notLaunched hmem =>
          have hbehind : ∀ e ∈ wipe ++ (opening ++ tests), e.request ≠ .execute r.listCommand :=
            List.forall_mem_append.2 ⟨hwipe.request_ne, List.forall_mem_append.2
              ⟨fun e he => ne_execute_listCommand (.inl (hopening e he)), htests.request_ne⟩⟩
          have hparts : r.front listing ++ (wipe ++ (opening ++ tests)) =
              ⟨.isDirectory r.config.layout.repoPath, true⟩ ::
                (listing ++ (wipe ++ (opening ++ tests))) := rfl
          rw [← hparts] at hmem
          rcases List.mem_append.1 hmem with hfront | hmem
          · exact absurd hfront hlisting.notMem_of_ok
          · exact absurd rfl (hbehind _ hmem)

/-! ## A sweep that nobody can list

A machine to which the result is applied. -/

/-- A machine with a checkout and a cassette, on which packages cannot be listed. -/
def unlistable : Sandbox :=
  let refuses : Rule := ⟨some "go", ["list"], .exits 1, [], []⟩
  ((Sandbox.furnished [] .empty [refuses]).withDirectory ⟨"/work/provider"⟩).withFile
    ⟨"/work/cassettes/ga/TestAccDisk.yaml"⟩ "recorded"

/-- Some packages are recorded anew. -/
def sampleRecording : RunOptions := { samplePhase with mode := .recording }

/-- All packages are recorded anew. -/
def sampleSweep : RunOptions := { sampleRecording with testDirs := [] }

/-- The sweep on that machine. -/
def unlistedSweep : Played Request.Answer Sandbox (Except RunnerFault PhaseRun) :=
  (sampleRunner.runPackages sampleSweep).run.play Sandbox.answer unlistable

/-- A recording of some packages on a machine that does not let cassettes go. -/
def heldRecording : List HostExchange :=
  [⟨.isDirectory ⟨"/work/provider"⟩, true⟩,
   ⟨.removeTree ⟨"/work/cassettes/ga"⟩, .error .permissionDenied⟩]

theorem yields_heldRecording : Yields (sampleRunner.runTests sampleRecording).run heldRecording
    (.error (.file .permissionDenied)) :=
  .ask (.ask (.done _))

/-! ## The result -/

/-- What a phase does to cassettes. -/
structure KeepsCassettes (r : Runner) (options : RunOptions) (exchanges : List HostExchange)
    (result : Except RunnerFault PhaseRun) : Prop where
  /-- Cassettes are removed once at most, and nothing else is ever removed. -/
  once : removals exchanges = [] ∨ removals exchanges = [options.cassetteDir]
  /-- When they are, all that must be known is known. -/
  warranted : ∀ before e behind dir, exchanges = before ++ e :: behind →
    e.request.removal? = some dir → Warranted r options before
  /-- In a replay all files are kept until tests are started, on every machine. -/
  replayed : options.mode = .replaying → ∀ before behind, exchanges = before ++ behind →
    (∀ e ∈ before, e.request.startsTests = false) →
    (∀ e ∈ before, e.request.KeepsFiles) ∧ ∀ s : Sandbox, s.files.Grown (s.after before).files
  /-- If the phase is given up, nothing was changed, on any machine. -/
  abandoned : Abandoned r exchanges result →
    (∀ e ∈ exchanges, e.request.changesNothing = true) ∧
      ∀ s : Sandbox, (s.after exchanges).files = s.files

/-- **Cassettes are removed only when it is safe and needed**, whatever the machine answers: at most
    once, before any test, and when it is known that there will be new ones. A replay leaves every file
    as it is until it starts tests, and so does a phase that is given up, to its end. -/
theorem keepsCassettes_of_phases (hphase : phase ∈ r.phases options)
    (h : Yields phase.run exchanges result) : KeepsCassettes r options exchanges result := by
  have hcourse := course_of_phases hphase h
  constructor
  case once => exact hcourse.removals_cases
  case warranted =>
    rintro before e behind dir rfl hremoves
    exact hcourse.warranted hremoves
  case replayed =>
    rintro hmode before behind rfl huntested
    have hkeeps := hcourse.keepsFiles (by rw [hmode]; decide) huntested
    exact ⟨hkeeps, fun s => Sandbox.grown_after hkeeps⟩
  case abandoned =>
    intro habandoned
    have hnothing := hcourse.changesNothing habandoned
    exact ⟨hnothing, fun s => Sandbox.files_after hnothing⟩

theorem file_unlistable : unlistable.files.at? ["work", "cassettes", "ga", "TestAccDisk.yaml"] =
    some (.file "recorded") := by
  decide +kernel

/-- Where packages cannot be listed, a sweep gives up, and its cassette is still there. A replay that gets
    as far as its workers has kept it, too. Cassettes of given packages are removed as soon as there is a
    checkout. -/
theorem keepsCassettes_of_phases_sweep :
    (unlistedSweep.result = .error (.packageDiscovery "") ∧
      unlistedSweep.state.files.at? ["work", "cassettes", "ga", "TestAccDisk.yaml"] =
        some (.file "recorded")) ∧
    (∃ workers, (unlistable.after ((sampleExchanges workers).take 3)).files.at?
      ["work", "cassettes", "ga", "TestAccDisk.yaml"] = some (.file "recorded")) ∧
    KeepsCassettes sampleRunner sampleRecording heldRecording (.error (.file .permissionDenied)) ∧
      removals heldRecording = [⟨"/work/cassettes/ga"⟩] ∧
      Warranted sampleRunner sampleRecording [⟨.isDirectory ⟨"/work/provider"⟩, true⟩] := by
  refine ⟨?sweep, ?replay, ?recording⟩
  case sweep =>
    have hresult : unlistedSweep.result = .error (.packageDiscovery "") := by decide +kernel
    have hkeeps := keepsCassettes_of_phases List.mem_cons_self
      (yields_play Sandbox.answer (sampleRunner.runPackages sampleSweep).run unlistable)
    have hfiles : unlistedSweep.state.files = unlistable.files := by
      rw [unlistedSweep, Sandbox.state_play]
      exact (hkeeps.abandoned (hresult ▸ .notListed)).2 unlistable
    rw [hfiles]
    exact ⟨hresult, file_unlistable⟩
  case replay =>
    obtain ⟨workers, hworkers, -⟩ := exists_sampleWorkers
    have hkeeps := keepsCassettes_of_phases (List.mem_cons_of_mem _ List.mem_cons_self)
      (yields_sampleExchanges hworkers)
    have huntested : ∀ e ∈ (sampleExchanges workers).take 3, e.request.startsTests = false := by
      simp only [sampleExchanges, replayExchanges, List.take, List.forall_mem_cons]
      exact ⟨rfl, rfl, rfl, List.forall_mem_nil _⟩
    have hgrown := (hkeeps.replayed rfl _ _ (List.take_append_drop 3 _).symm huntested).2 unlistable
    exact ⟨workers, hgrown.file_iff.2 file_unlistable⟩
  case recording =>
    have hkeeps := keepsCassettes_of_phases (List.mem_cons_of_mem _ List.mem_cons_self)
      yields_heldRecording
    exact ⟨hkeeps, rfl, hkeeps.warranted _ _ [] _ rfl rfl⟩

end Runner

end CassetteGate
