import CassetteGate.Proofs.Host.KeptFiles
import CassetteGate.Proofs.Runner.Runs

/-!
# `Proofs.Runner.Preparation` — what a phase asks for, and in which order

Before a phase tests anything it looks for the checkout, finds out what there is to test, removes old
cassettes if new ones are to be recorded, and makes the directories of its logs; then it starts its
tests, in one process or in many. Each of these steps may end it. The order decides what is lost when
one of them does, so it is written down here, once for both kinds of phase.

A phase begins with questions, which change nothing (`Listing`); only when its packages are known does
it make room for its cassettes (`Wipe`); then it makes directories for its logs, starts its tests and
keeps what they print (`Tested`). `Course` puts these parts one behind the other, and says which faults
may stand at the end.

## Contents
- **`Host.Request.startsTests`**, **`Host.Request.removal?`**, **`RunnerFault.ofCheckout`**.
- **`Runner.Discovery`**, **`Runner.Listing`**, **`Runner.Wipe`**, **`Runner.Preparation`**: before tests.
- **`Runner.Start`**, **`Runner.Tested`**, **`Runner.Attempt`**: tests.
- **`Runner.phases`**, **`Runner.Course`**, `course_of_phases`: the two kinds of phase.
-/

namespace CassetteGate

namespace Host

/-- Whether a request starts tests, in one process or in one for each. -/
def Request.startsTests : Request → Bool
  | .execute command => command.args.head? == some "test"
  | .runWorkers _ _ => true
  | _ => false

/-- What a request removes. -/
def Request.removal? : Request → Option Path
  | .removeTree path => some path
  | .removeFile path => some path
  | _ => none

/-- Whether a request makes ready for others: it makes a directory, or writes to the log. -/
def Request.makesReady : Request → Bool
  | .createDirectories _ => true
  | .log _ => true
  | _ => false

/-- Whether a request may be one that keeps what tests print. -/
def Request.keepsOutput : Request → Bool
  | .createDirectories _ => true
  | .appendFile _ _ => true
  | .writeFile _ _ => true
  | _ => false

end Host

/-- Whether a fault is about the checkout and what there is to test in it. -/
def RunnerFault.ofCheckout : RunnerFault → Bool
  | .repoNotConfigured _ => true
  | .packageDiscovery _ => true
  | _ => false

namespace Runner

open Host Program

variable {α β : Type} {r : Runner} {options : RunOptions} {packages : List String}
  {exchanges : List HostExchange}

/-! ## Single steps -/

theorem yields_ask_bind {q : Request} {f : q.Answer → RunnerProgram β} {result : Except RunnerFault β}
    (h : Yields (ask q >>= f).run exchanges result) :
    ∃ answer behind, exchanges = ⟨q, answer⟩ :: behind ∧ Yields (f answer).run behind result := by
  cases h with
  | ask h => exact ⟨_, _, rfl, h⟩

/-- How the start of a process goes. -/
theorem execute_cases {command : Command} {result : Except RunnerFault CommandOutput}
    (h : Yields (execute command).run exchanges result) :
    (∃ output, exchanges = [⟨.execute command, .ok output⟩] ∧ result = .ok output) ∨
      ∃ cause, exchanges = [⟨.execute command, .error cause⟩] ∧
        result = .error (.launch command.program cause) := by
  obtain ⟨answer, behind, rfl, hrest⟩ := yields_ask_bind h
  cases answer with
  | ok output =>
      cases hrest
      exact .inl ⟨output, rfl, rfl⟩
  | error cause =>
      cases hrest
      exact .inr ⟨cause, rfl, rfl⟩

/-- How something that is done with files goes. -/
theorem onFiles_cases {p : HostProgram (Except OsError α)} {result : Except RunnerFault α}
    (h : Yields (onFiles p).run exchanges result) :
    (∃ answer, Yields p exchanges answer) ∧
      ((∃ a, result = .ok a) ∨ ∃ cause, result = .error (.file cause)) := by
  unfold onFiles at h
  rw [ExceptT.run_bind, ExceptT.run_lift, bind_map_left] at h
  obtain ⟨before, answer, behind, hbefore, hbehind, rfl⟩ := yields_bind_iff.1 h
  cases answer with
  | ok a =>
      cases hbehind
      rw [List.append_nil]
      exact ⟨⟨_, hbefore⟩, .inl ⟨a, rfl⟩⟩
  | error cause =>
      cases hbehind
      rw [List.append_nil]
      exact ⟨⟨_, hbefore⟩, .inr ⟨cause, rfl⟩⟩

theorem requests_of_ask {q : Request} {answer : q.Answer} (h : Yields (Host.ask q) exchanges answer) :
    ∀ e ∈ exchanges, e.request = q := by
  cases h with
  | ask h =>
      cases h
      exact List.forall_mem_singleton.2 rfl

theorem createDirectories_cases {dir : Path} {result : Except RunnerFault Unit}
    (h : Yields (onFiles (Host.ask (.createDirectories dir))).run exchanges result) :
    (∀ e ∈ exchanges, e.request.makesReady = true) ∧
      (result = .ok () ∨ ∃ cause, result = .error (.file cause)) := by
  obtain ⟨⟨answer, hask⟩, hresult⟩ := onFiles_cases h
  refine ⟨fun e he => ?_, hresult.imp_left fun ⟨_, hok⟩ => hok⟩
  rw [requests_of_ask hask e he]
  rfl

theorem keepsOutput_of_ask {q : Request} {answer : q.Answer} (hq : q.keepsOutput = true)
    (h : Yields (Host.ask q) exchanges answer) : ∀ e ∈ exchanges, e.request.keepsOutput = true := by
  intro e he
  rw [requests_of_ask h e he]
  exact hq

theorem keepsOutput_of_appendLog {file : Path} {text : String} {answer : Except OsError Unit}
    (h : Yields (Host.appendLog file text) exchanges answer) :
    ∀ e ∈ exchanges, e.request.keepsOutput = true := by
  unfold Host.appendLog Host.createParent at h
  cases hparent : file.parent? with
  | none =>
      rw [hparent] at h
      exact keepsOutput_of_ask rfl h
  | some dir =>
      rw [hparent] at h
      cases h with
      | @ask _ _ made _ _ h =>
          refine List.forall_mem_cons.2 ⟨rfl, ?_⟩
          cases made with
          | ok done => exact keepsOutput_of_ask rfl h
          | error cause =>
              cases h
              exact List.forall_mem_nil _

/-! ## Preparation -/

/-- How the packages of the repository become known, or do not. -/
inductive Discovery (r : Runner) : List HostExchange → Except RunnerFault (List String) → Prop where
  /-- They are listed. -/
  | listed {output : CommandOutput} (hsuccess : output.success = true) :
      Discovery r [⟨.execute r.listCommand, .ok output⟩] (.ok (packagesOf output.stdout))
  /-- They cannot be listed. -/
  | failed {output : CommandOutput} (hfails : output.success = false) :
      Discovery r [⟨.execute r.listCommand, .ok output⟩]
        (.error (.packageDiscovery (Text.trimmed output.stderr)))
  /-- The program that lists them cannot be started. -/
  | notLaunched {cause : OsError} :
      Discovery r [⟨.execute r.listCommand, .error cause⟩] (.error (.launch r.program cause))

theorem discovery_of_discover {listed : Except RunnerFault (List String)}
    (h : Yields r.discover.run exchanges listed) : Discovery r exchanges listed := by
  rcases yields_run_bind_iff.1 h with
    ⟨before, output, behind, hexecute, hrest, rfl⟩ | ⟨fault, hexecute, rfl⟩
  · rcases execute_cases hexecute with ⟨output', rfl, hok⟩ | ⟨cause, -, herror⟩
    · obtain rfl := Except.ok.inj hok
      split at hrest
      · next hsuccess =>
          cases hrest
          exact .listed hsuccess
      · next hfails =>
          cases hrest
          exact .failed (Bool.eq_false_iff.2 hfails)
    · cases herror
  · rcases execute_cases hexecute with ⟨output, -, hok⟩ | ⟨cause, rfl, herror⟩
    · cases hok
    · obtain rfl := Except.error.inj herror
      exact .notLaunched

/-- How the packages of a phase become known, or do not. -/
inductive Listing (r : Runner) (options : RunOptions) :
    List HostExchange → Except RunnerFault (List String) → Prop where
  /-- The phase is given some. -/
  | given (hsome : options.testDirs ≠ []) : Listing r options [] (.ok options.testDirs)
  /-- It is given none, and looks for those of the repository. -/
  | discovered {exchanges : List HostExchange} {listed : Except RunnerFault (List String)}
      (hnone : options.testDirs = []) (hdiscovery : Discovery r exchanges listed) :
      Listing r options exchanges listed

theorem listing_of_packagesUnderTest {listed : Except RunnerFault (List String)}
    (h : Yields (r.packagesUnderTest options).run exchanges listed) :
    Listing r options exchanges listed := by
  unfold packagesUnderTest at h
  split at h
  · next hnone => exact .discovered (List.isEmpty_iff.1 hnone) (discovery_of_discover h)
  · next hsome =>
      cases h
      exact .given fun hnil => hsome (List.isEmpty_iff.2 hnil)

/-- How room is made for cassettes: not at all, or all old ones are removed at once, and then their
    directory is made again. -/
inductive Wipe (options : RunOptions) : List HostExchange → Prop where
  /-- The cassettes stay. -/
  | kept : Wipe options []
  /-- New ones are to be recorded. -/
  | wiped {answer : Except OsError Unit} {remade : List HostExchange}
      (hmode : options.mode = .recording) (hremade : ∀ e ∈ remade, e.request.makesReady = true) :
      Wipe options (⟨.removeTree options.cassetteDir, answer⟩ :: remade)

/-- How a phase is prepared. -/
inductive Preparation (r : Runner) (options : RunOptions) :
    List HostExchange → Except RunnerFault (List String) → Prop where
  /-- There is no checkout. -/
  | noRepository :
      Preparation r options [⟨.isDirectory r.config.layout.repoPath, false⟩]
        (.error (.repoNotConfigured r.config.layout.repoPath))
  /-- It does not become known what to test. -/
  | unlisted {listing : List HostExchange} {fault : RunnerFault}
      (hlisting : Listing r options listing (.error fault)) :
      Preparation r options (⟨.isDirectory r.config.layout.repoPath, true⟩ :: listing) (.error fault)
  /-- It does; then directories are made, which may be refused. -/
  | known {listing wipe logs : List HostExchange} {packages : List String}
      {prepared : Except RunnerFault (List String)}
      (hlisting : Listing r options listing (.ok packages)) (hwipe : Wipe options wipe)
      (hlogs : ∀ e ∈ logs, e.request.makesReady = true)
      (hprepared : prepared = .ok packages ∨ ∃ cause, prepared = .error (.file cause)) :
      Preparation r options
        (⟨.isDirectory r.config.layout.repoPath, true⟩ :: (listing ++ (wipe ++ logs))) prepared

theorem wipe_of_resetDirectory {done : Except RunnerFault Unit} (hmode : options.mode = .recording)
    (h : Yields (resetDirectory options.cassetteDir).run exchanges done) :
    Wipe options exchanges ∧ (done = .ok () ∨ ∃ cause, done = .error (.file cause)) := by
  obtain ⟨answer, behind, rfl, hrest⟩ := yields_ask_bind h
  dsimp only at hrest
  split at hrest
  · obtain ⟨hmakes, hdone⟩ := createDirectories_cases hrest
    exact ⟨.wiped hmode hmakes, hdone⟩
  · obtain ⟨hmakes, hdone⟩ := createDirectories_cases hrest
    exact ⟨.wiped hmode hmakes, hdone⟩
  · cases hrest
    exact ⟨.wiped hmode (List.forall_mem_nil _), .inr ⟨_, rfl⟩⟩

/-- The logs of a phase have directories of their own. -/
theorem makeLogs_cases {dir : Path} {prepared : Except RunnerFault (List String)}
    (h : Yields (onFiles (Host.ask (.createDirectories dir)) >>= fun _ => pure packages).run exchanges
      prepared) :
    (∀ e ∈ exchanges, e.request.makesReady = true) ∧
      (prepared = .ok packages ∨ ∃ cause, prepared = .error (.file cause)) := by
  rcases yields_run_bind_iff.1 h with ⟨before, made, behind, hmade, hrest, rfl⟩ | ⟨fault, hfault, rfl⟩
  · cases hrest
    rw [List.append_nil]
    exact ⟨(createDirectories_cases hmade).1, .inl rfl⟩
  · obtain ⟨hready, hok | ⟨cause, herror⟩⟩ := createDirectories_cases hfault
    · cases hok
    · obtain rfl := Except.error.inj herror
      exact ⟨hready, .inr ⟨cause, rfl⟩⟩

theorem preparation_of_prepare {prepared : Except RunnerFault (List String)}
    (h : Yields (r.prepare options).run exchanges prepared) :
    Preparation r options exchanges prepared := by
  obtain ⟨found, behind, rfl, hfound⟩ := yields_ask_bind h
  cases found with
  | false =>
      cases hfound
      exact .noRepository
  | true =>
      rcases yields_run_bind_iff.1 hfound with
        ⟨listing, packages, behind, hlisted, hrest, rfl⟩ | ⟨fault, hfault, rfl⟩
      · have hlisting := listing_of_packagesUnderTest hlisted
        dsimp only at hrest
        split at hrest
        · next hmode =>
            rcases yields_run_bind_iff.1 hrest with
              ⟨wipe, done, logs, hwipe, hlogs, rfl⟩ | ⟨fault, hfault, rfl⟩
            · obtain ⟨hready, hprepared⟩ := makeLogs_cases hlogs
              exact .known hlisting (wipe_of_resetDirectory hmode hwipe).1 hready hprepared
            · obtain ⟨hwipe, hok | ⟨cause, herror⟩⟩ := wipe_of_resetDirectory hmode hfault
              · cases hok
              · -- old cassettes are gone, and no directory is made for logs
                obtain rfl := Except.error.inj herror
                rw [← List.append_nil behind]
                exact .known hlisting hwipe (List.forall_mem_nil _) (.inr ⟨cause, rfl⟩)
        · obtain ⟨hready, hprepared⟩ := makeLogs_cases hrest
          exact .known hlisting .kept hready hprepared
      · exact .unlisted (listing_of_packagesUnderTest hfault)

/-! ## Tests -/

/-- A request that starts the tests of some packages. -/
inductive Start (r : Runner) (options : RunOptions) (packages : List String) : Request → Prop where
  /-- All of them in one process. -/
  | together {command : Command}
      (h : packageRun? r.config r.program options.mode packages options.cassetteDir = some command) :
      Start r options packages (.execute command)
  /-- Each in a process of its own. -/
  | apart {jobs : UInt64} {workers : List Worker} (h : r.workers? options packages = some workers) :
      Start r options packages (.runWorkers jobs workers)

/-- Tests of some packages, and what is made of them. -/
inductive Tested (r : Runner) (options : RunOptions) (packages : List String) :
    List HostExchange → Except RunnerFault PhaseRun → Prop where
  /-- They could not be started. -/
  | unstarted {fault : RunnerFault} (hfault : fault.ofCheckout = false) :
      Tested r options packages [] (.error fault)
  /-- They were, and what they print is kept. -/
  | started {start : HostExchange} {logs : List HostExchange} {result : Except RunnerFault PhaseRun}
      (hstart : Start r options packages start.request)
      (hlogs : ∀ e ∈ logs, e.request.keepsOutput = true)
      (hresult : ∀ fault, result = .error fault → fault.ofCheckout = false) :
      Tested r options packages (start :: logs) result

/-- What a phase does when its packages are known: it makes ready for their tests, and starts them if
    nothing was refused by then. -/
inductive Attempt (r : Runner) (options : RunOptions) (packages : List String) :
    List HostExchange → Except RunnerFault PhaseRun → Prop where
  | intro {opening tests : List HostExchange} {result : Except RunnerFault PhaseRun}
      (hopening : ∀ e ∈ opening, e.request.makesReady = true)
      (htests : Tested r options packages tests result) :
      Attempt r options packages (opening ++ tests) result

theorem ofCheckout_of_error {fault : RunnerFault} (h : fault.ofCheckout = false) :
    ∀ fault', (.error fault : Except RunnerFault PhaseRun) = .error fault' →
      fault'.ofCheckout = false := by
  intro fault' hsame
  cases hsame
  exact h

theorem Tested.ofCheckout_eq_false {tests : List HostExchange} {fault : RunnerFault}
    (h : Tested r options packages tests (.error fault)) : fault.ofCheckout = false := by
  cases h with
  | unstarted hfault => exact hfault
  | started hstart hlogs hresult => exact hresult fault rfl

/-- What tests print is kept, and then there is a result. -/
theorem keepOutput_cases {p : HostProgram (Except OsError Unit)} {phase : PhaseRun}
    {result : Except RunnerFault PhaseRun}
    (hkeeps : ∀ exchanges answer, Yields p exchanges answer →
      ∀ e ∈ exchanges, e.request.keepsOutput = true)
    (h : Yields (onFiles p >>= fun _ => pure phase).run exchanges result) :
    (∀ e ∈ exchanges, e.request.keepsOutput = true) ∧
      ∀ fault, result = .error fault → fault.ofCheckout = false := by
  rcases yields_run_bind_iff.1 h with ⟨logs, kept, behind, hkept, hrest, rfl⟩ | ⟨fault, hfault, rfl⟩
  · cases hrest
    obtain ⟨⟨answer, hrun⟩, -⟩ := onFiles_cases hkept
    rw [List.append_nil]
    exact ⟨hkeeps _ _ hrun, nofun⟩
  · obtain ⟨⟨answer, hrun⟩, ⟨a, hok⟩ | ⟨cause, herror⟩⟩ := onFiles_cases hfault
    · cases hok
    · cases herror
      exact ⟨hkeeps _ _ hrun, ofCheckout_of_error rfl⟩

/-! ## The two kinds of phase -/

variable {phase : RunnerProgram PhaseRun} {result : Except RunnerFault PhaseRun}

/-- A phase in one process, and one in a process for each test. -/
def phases (r : Runner) (options : RunOptions) : List (RunnerProgram PhaseRun) :=
  [r.runPackages options, r.runTests options]

/-- How a phase goes. -/
inductive Course (r : Runner) (options : RunOptions) :
    List HostExchange → Except RunnerFault PhaseRun → Prop where
  /-- There is no checkout. -/
  | noRepository :
      Course r options [⟨.isDirectory r.config.layout.repoPath, false⟩]
        (.error (.repoNotConfigured r.config.layout.repoPath))
  /-- It does not become known what to test. -/
  | unlisted {listing : List HostExchange} {fault : RunnerFault}
      (hlisting : Listing r options listing (.error fault)) :
      Course r options (⟨.isDirectory r.config.layout.repoPath, true⟩ :: listing) (.error fault)
  /-- It does, and tests may be started. -/
  | known {listing wipe opening tests : List HostExchange} {packages : List String}
      {result : Except RunnerFault PhaseRun}
      (hlisting : Listing r options listing (.ok packages)) (hwipe : Wipe options wipe)
      (hopening : ∀ e ∈ opening, e.request.makesReady = true)
      (htests : Tested r options packages tests result) :
      Course r options
        (⟨.isDirectory r.config.layout.repoPath, true⟩ :: (listing ++ (wipe ++ (opening ++ tests))))
        result

/-- A phase goes as its preparation does, and then as its tests do. -/
theorem course_of_prepare_bind {test : List String → RunnerProgram PhaseRun}
    (htest : ∀ packages exchanges result, Yields (test packages).run exchanges result →
      Attempt r options packages exchanges result)
    (h : Yields (r.prepare options >>= test).run exchanges result) :
    Course r options exchanges result := by
  rcases yields_run_bind_iff.1 h with
    ⟨before, packages, behind, hbefore, hbehind, rfl⟩ | ⟨fault, hfault, rfl⟩
  · cases preparation_of_prepare hbefore with
    | known hlisting hwipe hlogs hprepared =>
        rcases hprepared with hok | ⟨cause, herror⟩
        · obtain rfl := Except.ok.inj hok
          obtain ⟨hopening, htests⟩ := htest _ _ _ hbehind
          -- the directories of the preparation open the tests, with what comes before their start
          have hready := List.forall_mem_append.2 ⟨hlogs, hopening⟩
          have hcourse := Course.known hlisting hwipe hready htests
          simpa only [List.cons_append, List.append_assoc] using hcourse
        · cases herror
  · cases preparation_of_prepare hfault with
    | noRepository => exact .noRepository
    | unlisted hlisting => exact .unlisted hlisting
    | @known listing wipe logs packages _ hlisting hwipe hlogs hprepared =>
        rcases hprepared with hok | ⟨cause, herror⟩
        · cases hok
        · obtain rfl := Except.error.inj herror
          rw [← List.append_nil logs]
          exact .known hlisting hwipe hlogs (.unstarted rfl)

theorem course_of_runPackages (h : Yields (r.runPackages options).run exchanges result) :
    Course r options exchanges result := by
  refine course_of_prepare_bind (fun packages exchanges result hrun => ?_) h
  split at hrun
  · cases hrun
    exact .intro (List.forall_mem_nil _) (.unstarted rfl)
  · next command hcommand =>
      obtain ⟨logged, behind, rfl, hbehind⟩ := yields_ask_bind hrun
      rw [← List.singleton_append]
      have hopening : ∀ e ∈ [(⟨.log (.command command.logged), logged⟩ : HostExchange)],
          e.request.makesReady = true := List.forall_mem_singleton.2 rfl
      rcases yields_run_bind_iff.1 hbehind with
        ⟨started, output, logs, hexecute, hlogs, rfl⟩ | ⟨fault, hexecute, rfl⟩
      · rcases execute_cases hexecute with ⟨output', rfl, -⟩ | ⟨cause, -, herror⟩
        · obtain ⟨hkeeps, hresult⟩ :=
            keepOutput_cases (fun _ _ hrun => keepsOutput_of_appendLog hrun) hlogs
          exact .intro hopening (.started (.together hcommand) hkeeps hresult)
        · cases herror
      · rcases execute_cases hexecute with ⟨output, -, hok⟩ | ⟨cause, rfl, herror⟩
        · cases hok
        · obtain rfl := Except.error.inj herror
          exact .intro hopening (.started (.together hcommand) (List.forall_mem_nil _) (ofCheckout_of_error rfl))

theorem course_of_runTests (h : Yields (r.runTests options).run exchanges result) :
    Course r options exchanges result := by
  refine course_of_prepare_bind (fun packages exchanges result hrun => ?_) h
  rcases yields_run_bind_iff.1 hrun with
    ⟨opening, made, behind, hmade, hbehind, rfl⟩ | ⟨fault, hfault, rfl⟩
  · have hopening := (createDirectories_cases hmade).1
    split at hbehind
    · cases hbehind
      exact .intro hopening (.unstarted rfl)
    · next workers hworkers =>
        obtain ⟨answer, logs, rfl, hlogs⟩ := yields_ask_bind hbehind
        cases answer with
        | error fault =>
            cases hlogs
            have hlate : (r.faultOf fault).ofCheckout = false := by cases fault <;> rfl
            exact .intro hopening (.started (.apart hworkers) (List.forall_mem_nil _) (ofCheckout_of_error hlate))
        | ok finished =>
            obtain ⟨hkeeps, hresult⟩ :=
              keepOutput_cases (fun _ _ hrun => keepsOutput_of_ask rfl hrun) hlogs
            exact .intro hopening (.started (.apart hworkers) hkeeps hresult)
  · obtain ⟨hopening, hok | ⟨cause, herror⟩⟩ := createDirectories_cases hfault
    · cases hok
    · obtain rfl := Except.error.inj herror
      rw [← List.append_nil exchanges]
      exact .intro hopening (.unstarted rfl)

/-- **Every run of a phase of either kind goes one of these ways.** -/
theorem course_of_phases (hphase : phase ∈ r.phases options)
    (h : Yields phase.run exchanges result) : Course r options exchanges result := by
  unfold phases at hphase
  rcases List.mem_cons.1 hphase with rfl | hphase
  · exact course_of_runPackages h
  · obtain rfl := List.mem_singleton.1 hphase
    exact course_of_runTests h

end Runner

end CassetteGate
