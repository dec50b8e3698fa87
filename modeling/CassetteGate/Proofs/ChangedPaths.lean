import CassetteGate.Proofs.Surface
import Mathlib.Data.List.Forall2

/-!
# `Proofs.ChangedPaths` — the surface of a change, from its paths alone

Which packages a change is tested in is decided path by path: a path is looked at or not, and if it is,
it lies below the directory of a service or it does not. Each of these is said here by how the path is
put together, with no regard to how it is taken apart, and for any service roots, which may lie inside
each other.

The surface of a list of files depends on nothing but the set of paths that are looked at
(`surface_congr`). So neither the order of the files nor their number matters, and files that are not
looked at may be left out. And as the paths of two lists are those of both, the surface of two lists
is put together from the surfaces of each, where everything outweighs all else (`surface_append`).

## Contents
- **`Relevant`**, **`LastSegment`**, **`IsStripped`**: a path by itself.
- **`Considered`**: the paths of a change that are looked at.
- **`Parses`**, **`FirstService`**, **`Stray`**: a path and the service roots.
- **`IsSurface`**, `isSurface_surface`, **`surface_congr`**: the surface of a change.
- **`ChangeSurface.join`**, **`surface_append`**: changes taken together.
- **`surface_exact`**: what the surface is, and what it does not depend on.
-/

namespace CassetteGate

open Text

/-! ## Relevant paths -/

/-- The part of a path behind its last slash, or all of it if it has none. -/
def LastSegment (path name : String) : Prop :=
  '/' ∉ name.toList ∧ (path = name ∨ ∃ dir, path = dir ++ "/" ++ name)

/-- A path that can affect how acceptance tests behave. -/
inductive Relevant : String → Prop where
  /-- A source file. -/
  | source (front : String) : Relevant (front ++ ".go")
  /-- A fixture of the repository. -/
  | fixture (rest : String) : Relevant ("test-fixtures/" ++ rest)
  /-- A fixture of some package. -/
  | packageFixture (dir rest : String) : Relevant (dir ++ "/test-fixtures/" ++ rest)
  /-- A file that names what the code depends on. -/
  | dependencies {path name : String} (hname : name = "go.mod" ∨ name = "go.sum")
      (hlast : LastSegment path name) : Relevant path

theorem baseName_eq_iff {path name : String} : baseName path = name ↔ LastSegment path name := by
  unfold baseName LastSegment
  constructor
  · rintro rfl
    refine ⟨?_, ?_⟩
    · rw [String.toList_ofList, List.mem_reverse]
      exact slash_notMem_takeWhile path.toList.reverse
    · cases hdrop : path.toList.reverse.dropWhile (· ≠ '/') with
      | nil =>
          have hall := List.takeWhile_append_dropWhile (p := (· ≠ '/')) (l := path.toList.reverse)
          rw [hdrop, List.append_nil] at hall
          exact .inl (by rw [hall, List.reverse_reverse, String.ofList_toList])
      | cons c tail =>
          refine .inr ⟨String.ofList tail.reverse, ?_⟩
          have hcut := congrArg List.reverse (eq_append_of_dropWhile_slash hdrop)
          rw [List.reverse_reverse] at hcut
          generalize path.toList.reverse.takeWhile (· ≠ '/') = front at hcut ⊢
          rw [← String.toList_inj, hcut]
          simp
  · rintro ⟨hslash, hpath⟩
    have hname : '/' ∉ name.toList.reverse := fun h => hslash (List.mem_reverse.1 h)
    have htake : path.toList.reverse.takeWhile (· ≠ '/') = name.toList.reverse := by
      rcases hpath with rfl | ⟨dir, rfl⟩
      · exact List.takeWhile_eq_self_iff.2 fun c hc => decide_eq_true fun he => hname (he ▸ hc)
      · have hlist : (dir ++ "/" ++ name).toList.reverse =
            name.toList.reverse ++ '/' :: dir.toList.reverse := by simp
        rw [hlist, takeWhile_slash hname]
    rw [htake, List.reverse_reverse, String.ofList_toList]

theorem isTestRelevant_iff {path : String} : isTestRelevant path = true ↔ Relevant path := by
  unfold isTestRelevant
  rw [Bool.or_eq_true, Bool.or_eq_true, Bool.or_eq_true, Bool.or_eq_true, endsWith_iff,
    startsWith_iff, contains_iff, beq_iff_eq, beq_iff_eq, baseName_eq_iff, baseName_eq_iff]
  constructor
  · rintro ((((⟨front, rfl⟩ | ⟨rest, rfl⟩) | ⟨dir, rest, rfl⟩) | hmod) | hsum)
    · exact .source front
    · exact .fixture rest
    · exact .packageFixture dir rest
    · exact .dependencies (.inl rfl) hmod
    · exact .dependencies (.inr rfl) hsum
  · intro h
    cases h with
    | source front => exact .inl (.inl (.inl (.inl ⟨front, rfl⟩)))
    | fixture rest => exact .inl (.inl (.inl (.inr ⟨rest, rfl⟩)))
    | packageFixture dir rest => exact .inl (.inl (.inr ⟨dir, rest, rfl⟩))
    | dependencies hname hlast =>
        rcases hname with rfl | rfl
        · exact .inl (.inr hlast)
        · exact .inr hlast

/-! ## White space around paths -/

/-- What is left of a file's name without the white space around it. -/
def IsStripped (file path : String) : Prop :=
  (∃ front behind, file.toList = front ++ (path.toList ++ behind) ∧
    (∀ b ∈ front, isBlank b = true) ∧ ∀ b ∈ behind, isBlank b = true) ∧
  (∀ c ∈ path.toList.head?, isBlank c = false) ∧ ∀ c ∈ path.toList.getLast?, isBlank c = false

/-- The name of the same file with more white space around it. -/
def Padded (file padded : String) : Prop :=
  ∃ front behind : String, padded = front ++ file ++ behind ∧
    (∀ b ∈ front.toList, isBlank b = true) ∧ ∀ b ∈ behind.toList, isBlank b = true

theorem isStripped_iff {file path : String} : IsStripped file path ↔ path = trimmed file := by
  unfold IsStripped
  rw [← trim_eq_iff, ← toList_trimmed, String.toList_inj]
  exact eq_comm

theorem Padded.trimmed_eq {file padded : String} (h : Padded file padded) :
    trimmed padded = trimmed file := by
  obtain ⟨front, behind, rfl, hfront, hbehind⟩ := h
  have hlist : (front ++ file ++ behind).toList = front.toList ++ (file.toList ++ behind.toList) := by
    simp
  rw [← String.toList_inj, toList_trimmed, toList_trimmed, hlist]
  exact trim_padded rfl hfront hbehind

theorem map_trimmed_of_padded {files padded : List String} (h : List.Forall₂ Padded files padded) :
    padded.map trimmed = files.map trimmed := by
  induction h with
  | nil => rfl
  | cons hfile _ ih => rw [List.map_cons, List.map_cons, hfile.trimmed_eq, ih]

/-! ## Paths and service roots -/

/-- The path lies below a root, in the directory of a service. -/
def Parses (root service path : String) : Prop :=
  IsSegment service ∧ ∃ rest, rest ≠ "" ∧ path = root ++ service ++ "/" ++ rest

/-- The first root below which the path lies in the directory of a service; it is this service. -/
def FirstService (roots : List String) (service path : String) : Prop :=
  ∃ before root behind, roots = before ++ root :: behind ∧ Parses root service path ∧
    ∀ other ∈ before, ∀ service', ¬ Parses other service' path

/-- The path lies in the directory of a service below none of the roots. -/
def Stray (roots : List String) (path : String) : Prop :=
  ∀ root ∈ roots, ∀ service, ¬ Parses root service path

theorem serviceBelow?_eq_none_iff {root path : String} :
    serviceBelow? root path = none ↔ ∀ service, ¬ Parses root service path := by
  rw [Option.eq_none_iff_forall_ne_some]
  exact forall_congr' fun service => not_congr serviceBelow?_eq_some_iff

namespace SurfaceRules

variable {rules : SurfaceRules} {path service : String} {files other : List String}
  {s t : ChangeSurface}

theorem firstService_iff :
    FirstService rules.serviceRoots service path ↔ rules.serviceOf? path = some service := by
  unfold FirstService serviceOf?
  rw [List.findSome?_eq_some_iff]
  simp only [serviceBelow?_eq_some_iff, serviceBelow?_eq_none_iff]
  rfl

theorem stray_iff : Stray rules.serviceRoots path ↔ rules.serviceOf? path = none := by
  unfold Stray serviceOf?
  rw [List.findSome?_eq_none_iff]
  exact forall₂_congr fun root _ => serviceBelow?_eq_none_iff.symm

/-! ## The paths that are looked at -/

/-- A path of a change that is looked at: there is something left of it without white space, it can
    affect how tests behave, and it is no generated file that is passed over. -/
structure Considered (rules : SurfaceRules) (files : List String) (path : String) : Prop where
  /-- It is the path of a changed file. -/
  changed : ∃ file ∈ files, IsStripped file path
  /-- It is not empty. -/
  ne_empty : path ≠ ""
  /-- It can affect how tests behave. -/
  relevant : Relevant path
  /-- It is not passed over. -/
  notIgnored : path ∉ rules.ignoredFiles

theorem considered_iff :
    rules.Considered files path ↔
      path ∈ files.map trimmed ∧ isTestRelevant path = true ∧ path ∉ rules.ignoredFiles := by
  rw [List.mem_map]
  constructor
  · intro h
    obtain ⟨file, hfile, hstripped⟩ := h.changed
    exact ⟨⟨file, hfile, (isStripped_iff.1 hstripped).symm⟩, isTestRelevant_iff.2 h.relevant,
      h.notIgnored⟩
  · rintro ⟨⟨file, hfile, rfl⟩, hrelevant, hignored⟩
    refine ⟨⟨file, hfile, isStripped_iff.2 rfl⟩, ?_, isTestRelevant_iff.1 hrelevant, hignored⟩
    intro hempty
    rw [hempty] at hrelevant
    exact absurd hrelevant (by decide)

theorem considered_append :
    rules.Considered (files ++ other) path ↔
      rules.Considered files path ∨ rules.Considered other path := by
  simp only [considered_iff, List.map_append, List.mem_append, or_and_right]

/-- A file that has no name without white space, or cannot affect a test, is not looked at. -/
theorem not_considered_singleton {file : String}
    (hfile : ∀ path, IsStripped file path → path = "" ∨ ¬ Relevant path) :
    ¬ rules.Considered [file] path := by
  intro h
  obtain ⟨file', hmem, hstripped⟩ := h.changed
  obtain rfl := List.mem_singleton.1 hmem
  rcases hfile path hstripped with hempty | hirrelevant
  · exact h.ne_empty hempty
  · exact hirrelevant h.relevant

/-! ## The surface -/

/-- A surface of a change, by its paths: everything if some path that is looked at is stray, and else
    the services of all paths that are looked at. -/
structure IsSurface (rules : SurfaceRules) (files : List String) (s : ChangeSurface) : Prop where
  sweep : s.fullSweep = true ↔
    ∃ path, rules.Considered files path ∧ Stray rules.serviceRoots path
  packages : ∀ service, service ∈ s.packages ↔
    s.fullSweep = false ∧
      ∃ path, rules.Considered files path ∧ FirstService rules.serviceRoots service path

theorem IsSurface.unique (h : rules.IsSurface files s) (h' : rules.IsSurface files t) : s = t := by
  have hsweep : s.fullSweep = t.fullSweep := Bool.eq_iff_iff.2 (h.sweep.trans h'.sweep.symm)
  have hpackages : s.packages = t.packages := by
    ext service
    rw [h.packages, h'.packages, hsweep]
  cases s
  cases t
  exact congrArg₂ ChangeSurface.mk hpackages hsweep

theorem packages_of_fullSweep (h : (rules.surface files).fullSweep = true) :
    service ∉ (rules.surface files).packages := by
  rw [surface_eq] at h ⊢
  split at h
  · next hany =>
      rw [if_pos hany]
      exact NameSet.notMem_empty service
  · cases h

theorem isSurface_surface (rules : SurfaceRules) (files : List String) :
    rules.IsSurface files (rules.surface files) where
  sweep := by
    rw [fullSweep_iff]
    simp only [considered_iff, stray_iff, List.mem_map]
    constructor
    · rintro ⟨file, hfile, ⟨hrelevant, hignored⟩, hnone⟩
      exact ⟨_, ⟨⟨file, hfile, rfl⟩, hrelevant, hignored⟩, hnone⟩
    · rintro ⟨-, ⟨⟨file, hfile, rfl⟩, hrelevant, hignored⟩, hnone⟩
      exact ⟨file, hfile, ⟨hrelevant, hignored⟩, hnone⟩
  packages service := by
    by_cases hsweep : (rules.surface files).fullSweep = true
    · rw [hsweep]
      exact iff_of_false (packages_of_fullSweep hsweep) (fun h => Bool.noConfusion h.1)
    · rw [Bool.not_eq_true] at hsweep
      rw [and_iff_right hsweep, mem_packages_iff hsweep]
      simp only [considered_iff, firstService_iff, List.mem_map]
      constructor
      · rintro ⟨file, hfile, ⟨hrelevant, hignored⟩, hservice⟩
        exact ⟨_, ⟨⟨file, hfile, rfl⟩, hrelevant, hignored⟩, hservice⟩
      · rintro ⟨-, ⟨⟨file, hfile, rfl⟩, hrelevant, hignored⟩, hservice⟩
        exact ⟨file, hfile, ⟨hrelevant, hignored⟩, hservice⟩

/-- **The surface depends on nothing but the set of paths that are looked at.** -/
theorem surface_congr (h : ∀ path, rules.Considered files path ↔ rules.Considered other path) :
    rules.surface files = rules.surface other := by
  apply (isSurface_surface rules files).unique
  have hother := isSurface_surface rules other
  refine ⟨?_, fun service => ?_⟩
  · rw [hother.sweep]
    simp only [h]
  · rw [hother.packages]
    simp only [h]

end SurfaceRules

/-! ## Changes taken together -/

/-- What two changes together can affect: everything if one of them can, and else the packages of both. -/
def ChangeSurface.join (s t : ChangeSurface) : ChangeSurface :=
  if s.fullSweep || t.fullSweep then .everything
  else ⟨s.packages.insertAll t.packages.toList, false⟩

namespace ChangeSurface

variable {s t : ChangeSurface}

theorem fullSweep_join : (s.join t).fullSweep = (s.fullSweep || t.fullSweep) := by
  unfold join
  split
  · next h => exact h.symm
  · next h => exact (Bool.eq_false_iff.2 h).symm

theorem mem_packages_join {service : String} :
    service ∈ (s.join t).packages ↔
      (s.join t).fullSweep = false ∧ (service ∈ s.packages ∨ service ∈ t.packages) := by
  rw [fullSweep_join]
  unfold join
  split
  · next h =>
      rw [h]
      exact iff_of_false (NameSet.notMem_empty service) (fun hb => Bool.noConfusion hb.1)
  · next h =>
      rw [and_iff_right (Bool.eq_false_iff.2 h)]
      exact NameSet.mem_insertAll

end ChangeSurface

namespace SurfaceRules

variable {rules : SurfaceRules} {files other : List String}

/-- **The surface of two changes is put together from the surfaces of each.** -/
theorem surface_append (rules : SurfaceRules) (files other : List String) :
    rules.surface (files ++ other) = (rules.surface files).join (rules.surface other) := by
  have hfiles := isSurface_surface rules files
  have hother := isSurface_surface rules other
  apply (isSurface_surface rules (files ++ other)).unique
  refine ⟨?_, fun service => ?_⟩
  · rw [ChangeSurface.fullSweep_join, Bool.or_eq_true, hfiles.sweep, hother.sweep]
    simp only [considered_append, or_and_right, exists_or]
  · rw [ChangeSurface.mem_packages_join]
    refine and_congr_right fun hsweep => ?_
    rw [ChangeSurface.fullSweep_join, Bool.or_eq_false_iff] at hsweep
    rw [hfiles.packages, hother.packages, and_iff_right hsweep.1, and_iff_right hsweep.2]
    simp only [considered_append, or_and_right, exists_or]

/-! ## The result -/

/-- **The surface of a change is what its paths say it is**, for any rules. It depends neither on the
    order of the files nor on how often one of them is named, nor on files that have no name or cannot
    affect a test, nor on white space around names; and the surface of two changes is that of each
    together with the other. -/
theorem surface_exact (rules : SurfaceRules) :
    (∀ files s, s = rules.surface files ↔ rules.IsSurface files s) ∧
    (∀ files other : List String, (∀ file, file ∈ files ↔ file ∈ other) →
      rules.surface files = rules.surface other) ∧
    (∀ before file behind, (∀ path, IsStripped file path → path = "" ∨ ¬ Relevant path) →
      rules.surface (before ++ file :: behind) = rules.surface (before ++ behind)) ∧
    (∀ files padded, List.Forall₂ Padded files padded →
      rules.surface padded = rules.surface files) ∧
    ∀ files other,
      rules.surface (files ++ other) = (rules.surface files).join (rules.surface other) := by
  refine ⟨?_, ?_, ?_, ?_, surface_append rules⟩
  · intro files s
    constructor
    · rintro rfl
      exact isSurface_surface rules files
    · intro h
      exact h.unique (isSurface_surface rules files)
  · intro files other hsame
    apply surface_congr
    intro path
    simp only [considered_iff, List.mem_map, hsame]
  · intro before file behind hfile
    apply surface_congr
    intro path
    rw [← List.singleton_append, considered_append, considered_append, considered_append,
      or_iff_right (not_considered_singleton hfile)]
  · intro files padded hpadded
    apply surface_congr
    intro path
    rw [considered_iff, considered_iff, map_trimmed_of_padded hpadded]

/-- Rules with two roots, one inside the other. -/
def sampleRoots : SurfaceRules := (SurfaceRules.forVersion .ga).addRoot "google"

/-- A change to two services, once below each root. -/
def sampleChange : List String := ["google/services/compute/disk.go", "google/dns/zone.go"]

/-- The surface of a change to two services, which stays what it is with a file named twice and in
    another order, with a page of text, and with blanks around the names. -/
theorem surface_exact_blanks :
    (∀ file, file ∈ sampleChange ↔
      file ∈ ["google/dns/zone.go", "google/services/compute/disk.go", "google/dns/zone.go"]) ∧
    (∀ path, IsStripped " README.md" path → path = "" ∨ ¬ Relevant path) ∧
    List.Forall₂ Padded sampleChange
      [" google/services/compute/disk.go", "google/dns/zone.go\n"] ∧
    sampleRoots.IsSurface sampleChange (.ofServices ["compute", "dns"]) ∧
    sampleRoots.surface sampleChange = sampleRoots.surface
      ["google/dns/zone.go", "google/services/compute/disk.go", "google/dns/zone.go"] ∧
    sampleRoots.surface ["google/services/compute/disk.go", " README.md", "google/dns/zone.go"] =
      sampleRoots.surface sampleChange ∧
    sampleRoots.surface [" google/services/compute/disk.go", "google/dns/zone.go\n"] =
      sampleRoots.surface sampleChange ∧
    sampleRoots.surface sampleChange =
      (sampleRoots.surface ["google/services/compute/disk.go"]).join
        (sampleRoots.surface ["google/dns/zone.go"]) := by
  obtain ⟨hsurface, hmembers, hleftOut, hblanks, hjoin⟩ := surface_exact sampleRoots
  have hsame : ∀ file, file ∈ sampleChange ↔
      file ∈ ["google/dns/zone.go", "google/services/compute/disk.go", "google/dns/zone.go"] := by
    intro file
    simp only [sampleChange, List.mem_cons, List.not_mem_nil, or_false]
    tauto
  have hpage : ∀ path, IsStripped " README.md" path → path = "" ∨ ¬ Relevant path := by
    intro path hpath
    rw [isStripped_iff] at hpath
    rw [hpath, ← isTestRelevant_iff]
    exact .inr (by decide +kernel)
  have hpadded : List.Forall₂ Padded sampleChange
      [" google/services/compute/disk.go", "google/dns/zone.go\n"] :=
    .cons ⟨" ", "", by decide +kernel, List.all_eq_true.1 rfl, List.all_eq_true.1 rfl⟩
      (.cons ⟨"", "\n", by decide +kernel, List.all_eq_true.1 rfl, List.all_eq_true.1 rfl⟩ .nil)
  refine ⟨hsame, hpage, hpadded, (hsurface _ _).1 (by decide +kernel), hmembers _ _ hsame,
    hleftOut ["google/services/compute/disk.go"] " README.md" ["google/dns/zone.go"] hpage,
    hblanks _ _ hpadded, hjoin ["google/services/compute/disk.go"] ["google/dns/zone.go"]⟩

end SurfaceRules

end CassetteGate
