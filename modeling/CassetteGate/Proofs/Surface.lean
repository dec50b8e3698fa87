import CassetteGate.Surface
import Mathlib.Data.List.TakeWhile

/-!
# `Proofs.Surface` — the packages that a change is tested in

A changed path is cut up to find the service that it belongs to, the services are collected in a set,
and the directories that are tested are put together again from the names in the set. If cutting up
and putting together did not fit, a change would be tested in a package that it does not touch, and no
error would show that. With a single service root they do fit: a path belongs to a service exactly if
it lies below the directory of that service (`serviceOf?_eq_some_iff`), and a path lies below the
directory of one service at most (`service_unique`). Neither depends on what a path looks like
otherwise: segments may be empty, and names may hold blanks.

## Contents
- **`Below`**, **`IsSegment`**: paths below directories, names of services.
- **`SurfaceRules.Counts`**: the changed files that are tested.
- **`serviceOf?_eq_some_iff`**, **`service_unique`**, **`packageDir_injective`**: one path.
- **`fullSweep_iff`**, **`mem_packages_iff`**: the surface.
-/

namespace CassetteGate

open Text

/-! ## Paths and directories -/

/-- A path, taken from the root of the repository, lies below a directory. -/
def Below (dir path : String) : Prop := ∃ rest, rest ≠ "" ∧ "./" ++ path = dir ++ "/" ++ rest

/-- A name that can be a segment of a path. -/
structure IsSegment (name : String) : Prop where
  /-- It is not empty. -/
  ne_empty : name ≠ ""
  /-- It has no slash. -/
  slash_notMem : '/' ∉ name.toList

/-- What is cut off before the first slash, and the rest. -/
theorem takeWhile_slash {front : List Char} (hfront : '/' ∉ front) (rest : List Char) :
    (front ++ '/' :: rest).takeWhile (· ≠ '/') = front := by
  have hall : ∀ c ∈ front, decide (c ≠ '/') = true := fun c hc =>
    decide_eq_true fun he => hfront (he ▸ hc)
  rw [List.takeWhile_append_of_pos hall, List.takeWhile_cons_of_neg (by simp), List.append_nil]

theorem dropWhile_slash {front : List Char} (hfront : '/' ∉ front) (rest : List Char) :
    (front ++ '/' :: rest).dropWhile (· ≠ '/') = '/' :: rest := by
  have hall : ∀ c ∈ front, decide (c ≠ '/') = true := fun c hc =>
    decide_eq_true fun he => hfront (he ▸ hc)
  rw [List.dropWhile_append_of_pos hall, List.dropWhile_cons_of_neg (by simp)]

theorem slash_notMem_takeWhile (cs : List Char) : '/' ∉ cs.takeWhile (· ≠ '/') := by
  intro hmem
  simpa using List.mem_takeWhile_imp hmem

/-- What is left begins with the slash that it was cut at. -/
theorem eq_append_of_dropWhile_slash {cs tail : List Char} {c : Char}
    (h : cs.dropWhile (· ≠ '/') = c :: tail) : cs = cs.takeWhile (· ≠ '/') ++ '/' :: tail := by
  have hslash : c = '/' := by
    have hhead := List.head?_dropWhile_not (fun c => decide (c ≠ '/')) cs
    rw [h] at hhead
    simpa using hhead
  have hcut := (List.takeWhile_append_dropWhile (p := fun c => decide (c ≠ '/')) (l := cs)).symm
  rwa [h, hslash] at hcut

/-! ## The service of a path -/

/-- A path belongs to the service that its first segment behind the root names, if something follows. -/
theorem serviceBelow?_eq_some_iff {root path service : String} :
    serviceBelow? root path = some service ↔
      IsSegment service ∧ ∃ rest, rest ≠ "" ∧ path = root ++ service ++ "/" ++ rest := by
  unfold serviceBelow?
  constructor
  · intro h
    cases hafter : after? root.toList path.toList with
    | none =>
        rw [hafter] at h
        cases h
    | some behind =>
        simp only [hafter] at h
        split at h
        · next c d tail hdrop =>
            split at h
            · cases h
            · next hne =>
                rw [← Option.some.inj h]
                refine ⟨⟨fun hempty => hne ?_, ?_⟩, String.ofList (d :: tail), ?_, ?_⟩
                · rw [← String.toList_inj, String.toList_ofList] at hempty
                  rw [hempty]
                  rfl
                · rw [String.toList_ofList]
                  exact slash_notMem_takeWhile behind
                · intro hempty
                  rw [← String.toList_inj, String.toList_ofList] at hempty
                  cases hempty
                · rw [← String.toList_inj, after?_eq_some_iff.1 hafter]
                  simpa using eq_append_of_dropWhile_slash hdrop
        · cases h
  · rintro ⟨⟨hne, hslash⟩, rest, hrest, rfl⟩
    have hpath : (root ++ service ++ "/" ++ rest).toList
        = root.toList ++ (service.toList ++ '/' :: rest.toList) := by simp
    rw [hpath, after?_append]
    simp only [takeWhile_slash hslash, dropWhile_slash hslash]
    cases htail : rest.toList with
    | nil => exact absurd (String.toList_eq_nil_iff.1 htail) hrest
    | cons d tail =>
        have hsome : service.toList.isEmpty = false := by
          rw [Bool.eq_false_iff, ne_eq, List.isEmpty_iff, String.toList_eq_nil_iff]
          exact hne
        simp only [hsome, Bool.false_eq_true, if_false, String.ofList_toList]

namespace SurfaceRules

variable {rules : SurfaceRules} {root path service service' file : String} {files : List String}

/-- **A path belongs to a service exactly if it lies below the directory that is tested for it.** -/
theorem serviceOf?_eq_some_iff (hroot : rules.serviceRoots = [root]) :
    rules.serviceOf? path = some service ↔
      IsSegment service ∧ Below (rules.packageDir service) path := by
  have hone : rules.serviceOf? path = serviceBelow? root path := by
    simp [serviceOf?, hroot]
  rw [hone, serviceBelow?_eq_some_iff]
  unfold Below packageDir
  rw [hroot, List.headD_cons]
  -- both sides have the same path with the dot in front
  refine and_congr_right fun _ => exists_congr fun rest => and_congr_right fun _ => ?_
  rw [← String.toList_inj, ← String.toList_inj]
  simp

/-- **A path lies below the directory of one service at most.** -/
theorem service_unique (hroot : rules.serviceRoots = [root]) (hs : IsSegment service)
    (hs' : IsSegment service') (h : Below (rules.packageDir service) path)
    (h' : Below (rules.packageDir service') path) : service = service' := by
  have hof := (serviceOf?_eq_some_iff hroot).2 ⟨hs, h⟩
  have hof' := (serviceOf?_eq_some_iff hroot).2 ⟨hs', h'⟩
  exact Option.some.inj (hof.symm.trans hof')

theorem packageDir_injective (h : rules.packageDir service = rules.packageDir service') :
    service = service' := by
  unfold packageDir at h
  rw [← String.toList_inj] at h ⊢
  simpa using h

/-! ## Files that count -/

/-- A changed file is tested: without the blanks around it, it can affect a test, and it is no
    generated file that is passed over. -/
structure Counts (rules : SurfaceRules) (file : String) : Prop where
  /-- It can affect a test. -/
  relevant : isTestRelevant (trimmed file) = true
  /-- It is not passed over. -/
  notIgnored : trimmed file ∉ rules.ignoredFiles

/-- The files that do not count are those that reach nothing; an empty path is one of them, as it
    cannot affect a test. -/
theorem passedOver_eq_false_iff :
    ((trimmed file).isEmpty || !isTestRelevant (trimmed file)
      || rules.ignoredFiles.contains (trimmed file)) = false ↔ rules.Counts file := by
  have hcontains : rules.ignoredFiles.contains (trimmed file) = false ↔
      trimmed file ∉ rules.ignoredFiles := by
    rw [← NameSet.contains_iff, Bool.not_eq_true]
  rw [Bool.or_eq_false_iff, Bool.or_eq_false_iff, Bool.not_eq_false', hcontains]
  constructor
  · rintro ⟨⟨-, hrelevant⟩, hignored⟩
    exact ⟨hrelevant, hignored⟩
  · rintro ⟨hrelevant, hignored⟩
    refine ⟨⟨Bool.eq_false_iff.2 fun hempty => ?_, hrelevant⟩, hignored⟩
    rw [String.isEmpty_iff.1 hempty] at hrelevant
    exact absurd hrelevant (by decide)

theorem reach_of_not_counts (h : ¬ rules.Counts file) : rules.reach file = .nothing := by
  rw [← passedOver_eq_false_iff, Bool.not_eq_false] at h
  unfold reach
  simp only [if_pos h]

theorem reach_of_counts (h : rules.Counts file) :
    rules.reach file = ((rules.serviceOf? (trimmed file)).map .service).getD .everything := by
  rw [← passedOver_eq_false_iff] at h
  unfold reach
  simp only [h, Bool.false_eq_true, if_false]
  cases rules.serviceOf? (trimmed file) <;> rfl

theorem reach_eq_service_iff :
    rules.reach file = .service service ↔
      rules.Counts file ∧ rules.serviceOf? (trimmed file) = some service := by
  by_cases hcounts : rules.Counts file
  · rw [reach_of_counts hcounts]
    cases rules.serviceOf? (trimmed file) <;> simp [hcounts]
  · rw [reach_of_not_counts hcounts]
    exact iff_of_false nofun fun h => hcounts h.1

theorem reach_eq_everything_iff :
    rules.reach file = .everything ↔
      rules.Counts file ∧ rules.serviceOf? (trimmed file) = none := by
  by_cases hcounts : rules.Counts file
  · rw [reach_of_counts hcounts]
    cases rules.serviceOf? (trimmed file) <;> simp [hcounts]
  · rw [reach_of_not_counts hcounts]
    exact iff_of_false nofun fun h => hcounts h.1

/-! ## The surface -/

theorem surface_eq (rules : SurfaceRules) (files : List String) :
    rules.surface files =
      if (files.map rules.reach).any (· == .everything) then .everything
      else .ofServices ((files.map rules.reach).filterMap PathReach.service?) := rfl

/-- Everything is tested exactly if some file that counts belongs to no service. -/
theorem fullSweep_iff :
    (rules.surface files).fullSweep = true ↔
      ∃ file ∈ files, rules.Counts file ∧ rules.serviceOf? (trimmed file) = none := by
  have hany : (rules.surface files).fullSweep = true ↔
      (files.map rules.reach).any (· == .everything) = true := by
    rw [surface_eq]
    split
    · next h => exact iff_of_true rfl h
    · next h => exact iff_of_false nofun h
  rw [hany, List.any_map, List.any_eq_true]
  refine exists_congr fun file => and_congr_right fun _ => ?_
  rw [← reach_eq_everything_iff]
  exact beq_iff_eq

/-- Else the services of the files that count are tested. -/
theorem mem_packages_iff (hs : (rules.surface files).fullSweep = false) :
    service ∈ (rules.surface files).packages ↔
      ∃ file ∈ files, rules.Counts file ∧ rules.serviceOf? (trimmed file) = some service := by
  have hpackages : (rules.surface files).packages
      = .ofList ((files.map rules.reach).filterMap PathReach.service?) := by
    rw [surface_eq] at hs ⊢
    split at hs
    · cases hs
    · next h =>
        rw [if_neg h]
        rfl
  rw [hpackages, NameSet.mem_ofList, List.filterMap_map, List.mem_filterMap]
  refine exists_congr fun file => and_congr_right fun _ => ?_
  rw [← reach_eq_service_iff]
  show (rules.reach file).service? = some service ↔ _
  cases rules.reach file <;> simp [PathReach.service?]

end SurfaceRules

end CassetteGate
