import CassetteGate.Proofs.Presubmit.CallOrder
import CassetteGate.Proofs.Surface
import Mathlib.Data.List.Nodup

/-!
# `Proofs.Presubmit.Coverage` — every changed file is tested

A replay tests the packages of a change and no others, so a file whose package is missed is merged
untested. Each file that counts lies below exactly one of the directories that are replayed, or
everything is replayed at once; and no directory is replayed in vain, or twice. A run keeps to this if
its fetch and its replay calls succeed, whatever becomes of it afterwards.

The calls come from `Proofs.Presubmit.Course`: all of `replayOptions` if none is refused
(`Course.testDirs_eq`). That their directories cover the change is a fact about paths
(`Proofs.Surface`).

## Contents
- **`Course.testDirs_eq`**: the replay calls of a run.
- **`nodup_replayDirs`**, **`exists_unique_replayDir`**, **`exists_file_of_mem_replayDirs`**: their
  directories.
- **`presubmit_covers`**: the replay covers the change.
-/

namespace CassetteGate

namespace Presubmit

open Pipeline

variable {config : Config} {rules : SurfaceRules} {request : ChangeRequest} {dir : Path}
  {surface : ChangeSurface} {state : RunState} {ts t : Transcript}

/-! ## The replay calls of a run -/

/-- Whether a fetch, or a run of whole packages, was carried out; other requests do not count. -/
def served : Exchange Request.Answer → Bool
  | ⟨.fetch _ _ _, a⟩ => a.isOk
  | ⟨.runTests _, a⟩ => a.isOk
  | _ => true

theorem mem_of_mem_packageCalls {call : RunOptions × Except RunnerFault PhaseRun}
    (h : call ∈ t.packageCalls) : ⟨.runTests call.1, call.2⟩ ∈ t := by
  unfold Transcript.packageCalls at h
  obtain ⟨⟨q, a⟩, he, hcall⟩ := List.mem_filterMap.1 h
  cases q with
  | runTests options =>
      rw [← Option.some.inj hcall]
      exact he
  | _ => cases hcall

/-- Nothing is run package by package behind the replay. -/
theorem RecordWork.packageCalls_eq_nil {failed : List String} {w : Except Failure RunState}
    (h : RecordWork config request dir state failed ts w) : ts.packageCalls = [] := by
  obtain ⟨record, confirm, hfollows⟩ := h.follows
  rw [List.eq_nil_iff_forall_not_mem]
  intro call hcall
  -- whatever is asked is in the plan, and that has other requests only
  have hmem : ⟨.runTests call.1, call.2⟩ ∈ ts.testCalls :=
    List.mem_filter.2 ⟨mem_of_mem_packageCalls hcall, rfl⟩
  have hplan := hfollows.request_mem (List.mem_map_of_mem hmem)
  unfold recordPlan confirmPlan publishRequest at hplan
  split at hplan <;> simp at hplan

/-- If no replay call is refused, all of them are made. -/
theorem ReplayWork.packageCalls_eq {w : Except Failure RunState}
    (h : ReplayWork config rules request dir surface ts w) (hserved : ∀ e ∈ ts, served e = true) :
    ts.packageCalls.map Prod.fst = replayOptions config rules surface dir := by
  cases h with
  | refused ts failure hr =>
      cases hr with
      | refused front o rest runs e ho hl =>
          have hmem : ⟨.runTests o, .error e⟩ ∈ emitted (.phaseStarted .replaying false 0)
              :: (ran front runs ++ [⟨.runTests o, .error e⟩]) :=
            List.mem_cons_of_mem _ (List.mem_append_right _ List.mem_cons_self)
          exact absurd (hserved _ hmem) nofun
  | crashed runs l hl hc =>
      rw [← Transcript.packageCalls_testCalls, Transcript.testCalls_append, testCalls_replayPart,
        Transcript.packageCalls_append, List.map_append, options_packageCalls_ran hl]
      exact List.append_nil _
  | clean runs l hl hc hf =>
      rw [← Transcript.packageCalls_testCalls, testCalls_replayPart]
      exact options_packageCalls_ran hl
  | recording runs l hl hc hf hw =>
      rw [Transcript.packageCalls_append, hw.packageCalls_eq_nil, List.append_nil,
        ← Transcript.packageCalls_testCalls, testCalls_replayPart]
      exact options_packageCalls_ran hl

/-- **The directories that a run replays**, if neither the fetch nor any replay call is refused. -/
theorem Course.testDirs_eq {r : Except Failure Outcome} (h : Course config rules request t r)
    (hserved : ∀ e ∈ t, served e = true) :
    t.packageCalls.map (·.1.testDirs)
      = if (rules.surface request.changedFiles).fullSweep then [[]]
        else (replayDirs rules (rules.surface request.changedFiles)).map ([·]) := by
  have hcalled : ∀ e ∈ t.testCalls, served e = true := fun e he => hserved e (List.mem_filter.1 he).1
  rw [← Transcript.packageCalls_testCalls]
  rcases h.testCalls_cases with ⟨hs, hcalls⟩ | ⟨hs, ⟨e, hcalls⟩ | ⟨dir, ts, w, hcalls, hw⟩⟩
  · have hsweep : (rules.surface request.changedFiles).fullSweep = false := by
      simp only [ChangeSurface.isEmpty, Bool.and_eq_true, Bool.not_eq_true'] at hs
      exact hs.1
    rw [hcalls, hsweep, replayDirs_of_isEmpty hs]
    rfl
  · rw [hcalls] at hcalled
    exact absurd (hcalled _ List.mem_cons_self) Bool.false_ne_true
  · rw [hcalls] at hcalled ⊢
    show ts.testCalls.packageCalls.map ((·.testDirs) ∘ Prod.fst) = _
    rw [Transcript.packageCalls_testCalls, ← List.map_map, ← testDirs_replayOptions]
    congr 1
    refine hw.packageCalls_eq fun e he => ?_
    by_cases htest : e.request.isTestCall = true
    · exact hcalled e (List.mem_cons_of_mem _ (List.mem_filter.2 ⟨he, htest⟩))
    · -- what is no call for tests does not count
      obtain ⟨q, a⟩ := e
      cases q with
      | runTests options => exact absurd rfl htest
      | fetch version baseBranch head => exact absurd rfl htest
      | _ => rfl

/-! ## Their directories -/

section Directories

variable {root d file : String} {files : List String}

theorem mem_replayDirs_iff (hs : surface.fullSweep = false) :
    d ∈ replayDirs rules surface ↔ ∃ service ∈ surface.packages, rules.packageDir service = d := by
  unfold replayDirs
  rw [hs]
  exact List.mem_map

/-- No directory is replayed twice. -/
theorem nodup_replayDirs (rules : SurfaceRules) (surface : ChangeSurface) :
    (replayDirs rules surface).Nodup := by
  unfold replayDirs
  split
  · exact List.nodup_nil
  · exact List.Nodup.map (fun _ _ => SurfaceRules.packageDir_injective) surface.packages.nodup

/-- A file that counts lies below exactly one of the directories. -/
theorem exists_unique_replayDir (hroot : rules.serviceRoots = [root])
    (hs : (rules.surface files).fullSweep = false) (hfile : file ∈ files) (hcounts : rules.Counts file) :
    ∃! d, d ∈ replayDirs rules (rules.surface files) ∧ Below d (Text.trimmed file) := by
  -- it belongs to some service, or else everything would be tested
  cases hof : rules.serviceOf? (Text.trimmed file) with
  | none =>
      have hsweep := SurfaceRules.fullSweep_iff.2 ⟨file, hfile, hcounts, hof⟩
      exact absurd (hs.symm.trans hsweep) nofun
  | some service =>
      have hmem := (SurfaceRules.mem_packages_iff hs).2 ⟨file, hfile, hcounts, hof⟩
      obtain ⟨hservice, hbelow⟩ := (SurfaceRules.serviceOf?_eq_some_iff hroot).1 hof
      refine ⟨rules.packageDir service, ⟨(mem_replayDirs_iff hs).2 ⟨service, hmem, rfl⟩, hbelow⟩, ?_⟩
      rintro d ⟨hd, hbelow'⟩
      obtain ⟨service', hmem', rfl⟩ := (mem_replayDirs_iff hs).1 hd
      obtain ⟨file', -, -, hof'⟩ := (SurfaceRules.mem_packages_iff hs).1 hmem'
      have hservice' := ((SurfaceRules.serviceOf?_eq_some_iff hroot).1 hof').1
      rw [SurfaceRules.service_unique hroot hservice' hservice hbelow' hbelow]

/-- Some file that counts lies below each of them. -/
theorem exists_file_of_mem_replayDirs (hroot : rules.serviceRoots = [root])
    (hs : (rules.surface files).fullSweep = false)
    (hd : d ∈ replayDirs rules (rules.surface files)) :
    ∃ file ∈ files, rules.Counts file ∧ Below d (Text.trimmed file) := by
  obtain ⟨service, hmem, rfl⟩ := (mem_replayDirs_iff hs).1 hd
  obtain ⟨file, hfile, hcounts, hof⟩ := (SurfaceRules.mem_packages_iff hs).1 hmem
  exact ⟨file, hfile, hcounts, ((SurfaceRules.serviceOf?_eq_some_iff hroot).1 hof).2⟩

end Directories

/-! ## The replay covers the change -/

/-- What is kept to by directories that are tested one by one for a change of `files`. -/
structure Covers (rules : SurfaceRules) (files dirs : List String) : Prop where
  /-- Every file that counts lies below exactly one of them. -/
  covered : ∀ file ∈ files, rules.Counts file → ∃! d, d ∈ dirs ∧ Below d (Text.trimmed file)
  /-- Below each of them there is a file that counts. -/
  needed : ∀ d ∈ dirs, ∃ file ∈ files, rules.Counts file ∧ Below d (Text.trimmed file)
  /-- None is tested twice. -/
  once : dirs.Nodup

/-- A file lies in no package. -/
def Outside (rules : SurfaceRules) (file : String) : Prop :=
  ∀ service, IsSegment service → ¬ Below (rules.packageDir service) (Text.trimmed file)

/-- **The replay of a change tests every file that counts**: everything is tested at once, since some
    file lies in no package, or the packages of the files are tested one by one. -/
theorem presubmit_covers {r : Except Failure Outcome}
    (h : Runs (presubmit config (.forVersion config.version) request) t r)
    (hserved : ∀ e ∈ t, served e = true) :
    (t.packageCalls.map (·.1.testDirs) = [[]] ∧
      ∃ file ∈ request.changedFiles, (SurfaceRules.forVersion config.version).Counts file ∧
        Outside (.forVersion config.version) file) ∨
    ∃ dirs, t.packageCalls.map (·.1.testDirs) = dirs.map ([·]) ∧
      Covers (.forVersion config.version) request.changedFiles dirs := by
  have hroot : (SurfaceRules.forVersion config.version).serviceRoots
      = [config.version.sourceDir ++ "/services/"] := rfl
  generalize SurfaceRules.forVersion config.version = rules at h hroot ⊢
  have hdirs := (course_presubmit h).testDirs_eq hserved
  by_cases hs : (rules.surface request.changedFiles).fullSweep = true
  · rw [if_pos hs] at hdirs
    obtain ⟨file, hfile, hcounts, hof⟩ := SurfaceRules.fullSweep_iff.1 hs
    refine Or.inl ⟨hdirs, file, hfile, hcounts, fun service hservice hbelow => ?_⟩
    have hsome := (SurfaceRules.serviceOf?_eq_some_iff hroot).2 ⟨hservice, hbelow⟩
    exact absurd (hof.symm.trans hsome) nofun
  · rw [if_neg hs] at hdirs
    rw [Bool.not_eq_true] at hs
    refine Or.inr ⟨_, hdirs, ?_, ?_, nodup_replayDirs _ _⟩
    · exact fun file hfile hcounts => exists_unique_replayDir hroot hs hfile hcounts
    · exact fun d hd => exists_file_of_mem_replayDirs hroot hs hd

/-- A change to files of two packages, one of them deep down, and to a file that does not count. -/
def scatteredRequest : ChangeRequest :=
  { sampleRequest with
    changedFiles :=
      ["google/services/storage/a//b.go\t", "google/services/my disk/go.mod",
        "google/provider/provider_dcl_resources.go"] }

/-- Its two packages are tested, each once. -/
theorem presubmit_covers_scattered :
    ∃ t r, Runs (presubmit sampleConfig (.forVersion sampleConfig.version) scatteredRequest) t r ∧
      (∀ e ∈ t, served e = true) ∧
      t.packageCalls.map (·.1.testDirs)
        = [["./google/services/my disk"], ["./google/services/storage"]] ∧
      ∃ dirs, t.packageCalls.map (·.1.testDirs) = dirs.map ([·]) ∧
        Covers (.forVersion sampleConfig.version) scatteredRequest.changedFiles dirs := by
  have h := runs_rehearse ⟨[], [], .willing, 0⟩
    (presubmit sampleConfig (.forVersion sampleConfig.version) scatteredRequest)
  obtain ⟨hserved, hdirs⟩ : (∀ e ∈ (Script.rehearse ⟨[], [], .willing, 0⟩ (presubmit sampleConfig
        (.forVersion sampleConfig.version) scatteredRequest)).2, served e = true) ∧
      (Script.rehearse ⟨[], [], .willing, 0⟩ (presubmit sampleConfig
        (.forVersion sampleConfig.version) scatteredRequest)).2.packageCalls.map (·.1.testDirs)
        = [["./google/services/my disk"], ["./google/services/storage"]] := by
    decide +kernel
  refine ⟨_, _, h, hserved, hdirs, ?_⟩
  refine (presubmit_covers h hserved).resolve_left fun hsweep => ?_
  rw [hdirs] at hsweep
  exact absurd hsweep.1 (by decide)

end Presubmit

end CassetteGate
