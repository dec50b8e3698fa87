import CassetteGate.Storage.Buckets
import Mathlib.Data.List.Nodup

/-!
# `Proofs.Storage.Layers` — cassettes are read back where they were published

A run starts from layers of cassettes, and it publishes into one of them. The places are spelled out
twice, for the fetch and for the upload, from names that may be any text at all; and the general
provider has no directory of its own, so that its layers lie right beside those of the other versions.
Here both spellings are led back to one function, `Buckets.layerDir`, of a version and a `Layer`.

That function is injective, whatever branches are called. Behind the root of the bucket, the first
letter of a path tells the version, since no layer begins as a directory of a version does; and its
sixth letter tells the kind of the layer. The rest of the path is the name between two fixed texts. So
two layers share a place only if they are the same, and what is known of the list of layers (`layers`)
is known of the places that are fetched.

## Contents
- **`Layer`**, **`Layer.path`**, **`Buckets.layerDir`**, **`layerDir_injective`**: layers and places.
- **`fetchSources_eq`**, **`uploadDestination_eq`**: both spellings.
- **`ReadBack`**, **`published_readBack`**: what is published is read back, by its own change only.
-/

namespace CassetteGate

/-- A layer of cassettes, within those of a version. -/
inductive Layer where
  /-- That of the main branch. -/
  | main
  /-- That of another base branch. -/
  | branch (name : String)
  /-- That of a change. -/
  | head (name : String)
  deriving DecidableEq

namespace Layer

/-- Where a layer lies below the cassettes of its version. -/
def path : Layer → String
  | .main => "fixtures/"
  | .branch name => "refs/branches/" ++ (name ++ "/fixtures/")
  | .head name => "refs/heads/" ++ (name ++ "/fixtures/")

/-- The sixth letter of a path, by which kinds of layers differ. -/
def letter : Layer → Char
  | .main => 'r'
  | .branch _ => 'b'
  | .head _ => 'h'

theorem getElem?_path (l : Layer) : l.path.toList[5]? = some l.letter := by
  cases l with
  | main => rfl
  | branch name =>
      show ("refs/branches/" ++ (name ++ "/fixtures/")).toList[5]? = some 'b'
      rw [String.toList_append]
      rfl
  | head name =>
      show ("refs/heads/" ++ (name ++ "/fixtures/")).toList[5]? = some 'h'
      rw [String.toList_append]
      rfl

theorem path_injective {l l' : Layer} (h : l.path = l'.path) : l = l' := by
  have hletter : l.letter = l'.letter := by
    have hpath := l.getElem?_path
    rw [h, l'.getElem?_path] at hpath
    exact (Option.some.inj hpath).symm
  -- layers of different kinds differ in their letter, and of one kind in what stands for the name
  cases l <;> cases l' <;> try cases hletter
  case main.main => rfl
  case branch.branch name name' =>
      have hname : name ++ "/fixtures/" = name' ++ "/fixtures/" := (String.append_right_inj _).1 h
      rw [(String.append_left_inj _).1 hname]
  case head.head name name' =>
      have hname : name ++ "/fixtures/" = name' ++ "/fixtures/" := (String.append_right_inj _).1 h
      rw [(String.append_left_inj _).1 hname]

end Layer

/-! ## Layers of a version -/

/-- The version that a place belongs to, read off its first letter. -/
def ProviderVersion.ofLetter : List Char → ProviderVersion
  | 'b' :: _ => .beta
  | 'p' :: _ => .privateBuild
  | _ => .ga

/-- No layer begins as a directory of a version does. -/
theorem ofLetter_bucketPath (version : ProviderVersion) (l : Layer) :
    ProviderVersion.ofLetter (version.bucketPath ++ l.path).toList = version := by
  rw [String.toList_append]
  cases version with
  | beta => rfl
  | privateBuild => rfl
  | ga =>
      cases l with
      | main => rfl
      | branch name =>
          show ProviderVersion.ofLetter ("refs/branches/" ++ (name ++ "/fixtures/")).toList = .ga
          rw [String.toList_append]
          rfl
      | head name =>
          show ProviderVersion.ofLetter ("refs/heads/" ++ (name ++ "/fixtures/")).toList = .ga
          rw [String.toList_append]
          rfl

namespace Buckets

variable (b : Buckets) {version version' : ProviderVersion} {base head : String}

/-- Where a layer lies. -/
def layerDir (version : ProviderVersion) (l : Layer) : String := b.cassetteRoot version ++ l.path

/-- **Different layers lie in different places.** -/
theorem layerDir_injective {l l' : Layer} (h : b.layerDir version l = b.layerDir version' l') :
    version = version' ∧ l = l' := by
  have hpath : version.bucketPath ++ l.path = version'.bucketPath ++ l'.path := by
    apply (String.append_right_inj ("gs://" ++ b.cassettes ++ "/")).1
    rw [← String.append_assoc, ← String.append_assoc]
    exact h
  have hversion : version = version' := by
    rw [← ofLetter_bucketPath version l, hpath, ofLetter_bucketPath]
  subst hversion
  exact ⟨rfl, Layer.path_injective ((String.append_right_inj _).1 hpath)⟩

theorem layerDir_main : b.layerDir version .main = b.mainDir version := rfl

theorem layerDir_branch (name : String) :
    b.layerDir version (.branch name) = b.branchDir version name := by
  unfold branchDir layerDir Layer.path
  rw [String.append_assoc, String.append_assoc]

theorem layerDir_head (name : String) :
    b.layerDir version (.head name) = b.headDir version name := by
  unfold headDir layerDir Layer.path
  rw [String.append_assoc, String.append_assoc]

/-! ## What is fetched -/

/-- The layers that a run starts from, the last of them on top. -/
def layers (base : String) (head : Option String) : List Layer :=
  (if base = majorReleaseBranch then [] else [.main])
  ++ (if base = "main" then [] else [.branch base])
  ++ ((head.filter fun h => !h.isEmpty).map Layer.head).toList

/-- What is fetched are all files of these layers. -/
theorem fetchSources_eq (version : ProviderVersion) (base : String) (head : Option String) :
    b.fetchSources version base head
      = (layers base head).map fun l => b.layerDir version l ++ "*" := by
  unfold fetchSources layers allFiles
  rw [List.map_append, List.map_append]
  congr 1
  · congr 1
    · split <;> rfl
    · split
      · rfl
      · rw [List.map_singleton, layerDir_branch]
  · cases head.filter fun h => !h.isEmpty with
    | none => rfl
    | some h =>
        show [b.headDir version h ++ "*"] = [b.layerDir version (.head h) ++ "*"]
        rw [layerDir_head]

/-- A place is fetched only if it is one of these layers, of the version that is fetched. -/
theorem mem_fetchSources_iff {head : Option String} {l : Layer} :
    b.layerDir version' l ++ "*" ∈ b.fetchSources version base head
      ↔ version' = version ∧ l ∈ layers base head := by
  rw [fetchSources_eq, List.mem_map]
  constructor
  · rintro ⟨l', hl', hdir⟩
    obtain ⟨rfl, rfl⟩ := b.layerDir_injective ((String.append_left_inj _).1 hdir)
    exact ⟨rfl, hl'⟩
  · rintro ⟨rfl, hl⟩
    exact ⟨l, hl, rfl⟩

theorem main_mem_layers_iff {head : Option String} :
    Layer.main ∈ layers base head ↔ base ≠ majorReleaseBranch := by
  unfold layers
  simp

theorem head_mem_layers_iff {name : String} {head : Option String} :
    Layer.head name ∈ layers base head ↔ head = some name ∧ name ≠ "" := by
  unfold layers
  simp [Option.filter_eq_some_iff]

theorem nodup_layers (base : String) (head : Option String) : (layers base head).Nodup := by
  unfold layers
  cases head.filter fun h => !h.isEmpty <;> split <;> split <;> simp

/-- The two base branches that leave out a layer leave out different ones. -/
theorem layers_ne_nil (base : String) (head : Option String) : layers base head ≠ [] := by
  unfold layers
  by_cases hbase : base = majorReleaseBranch
  · have hmain : base ≠ "main" := by
      rw [hbase]
      decide
    rw [if_neg hmain]
    simp
  · rw [if_neg hbase]
    simp

end Buckets

/-! ## What is published -/

/-- The layer that an upload of cassettes replaces; a backup is no layer. -/
def UploadTarget.layer? : UploadTarget → Option Layer
  | .head branch => some (.head branch)
  | .main => some .main
  | .backup _ _ => none

theorem UploadTarget.layer?_injective {target target' : UploadTarget} {l : Layer}
    (h : target.layer? = some l) (h' : target'.layer? = some l) : target = target' := by
  cases target <;> cases target' <;> cases h <;> cases h' <;> rfl

namespace Buckets

variable (b : Buckets) {version version' : ProviderVersion} {base head : String}

theorem uploadDestination_eq {target : UploadTarget} {l : Layer} (h : target.layer? = some l) :
    b.uploadDestination version target = b.layerDir version l := by
  cases target with
  | head branch =>
      cases h
      exact (b.layerDir_head branch).symm
  | main =>
      cases h
      exact b.layerDir_main.symm
  | backup date buildId => cases h

/-- How the layers of the change `head`, which goes into the branch `base`, are kept apart. -/
structure ReadBack (version : ProviderVersion) (base head : String) : Prop where
  /-- The cassettes that were recorded for the change come last, on top of all others. -/
  head_last : (b.fetchSources version base (some head)).getLast?
    = some (b.uploadDestination version (.head head) ++ "*")
  /-- Those of the main branch come first, unless the base branch does without them. -/
  main_first : ∀ head' : Option String, (b.fetchSources version base head').head?
    = some (b.uploadDestination version .main ++ "*") ↔ base ≠ majorReleaseBranch
  /-- In that case they are not fetched at all. -/
  main_left_out : base = majorReleaseBranch → ∀ head' : Option String,
    b.uploadDestination version .main ++ "*" ∉ b.fetchSources version base head'
  /-- There is something to fetch, also if there is no change. -/
  nonempty : b.fetchSources version base none ≠ []
  /-- Nothing is fetched twice. -/
  nodup : ∀ head' : Option String, (b.fetchSources version base head').Nodup
  /-- The cassettes of no other change, and of no change in another version, are fetched. -/
  other_heads : ∀ version' head', (version', head') ≠ (version, head) →
    b.uploadDestination version' (.head head') ++ "*" ∉ b.fetchSources version base (some head)
  /-- Those of the main branch in another version are not. -/
  other_mains : ∀ version', version' ≠ version →
    b.uploadDestination version' .main ++ "*" ∉ b.fetchSources version base (some head)

/-- **What is published for a change is read back, by that change only**; and no two uploads of
    cassettes, to the layers of whatever changes and versions, go to the same place. -/
theorem published_readBack (b : Buckets) :
    (∀ version base head, head ≠ "" → b.ReadBack version base head) ∧
    (∀ version version' target target' l l', target.layer? = some l → target'.layer? = some l' →
      b.uploadDestination version target = b.uploadDestination version' target' →
      version = version' ∧ target = target') := by
  constructor
  · intro version base head hhead
    constructor
    case head_last =>
      have hkept : (some head).filter (fun h => !h.isEmpty) = some head := by
        simpa [Option.filter_eq_some_iff] using hhead
      unfold fetchSources
      rw [hkept]
      exact List.getLast?_concat
    case main_first =>
      intro head'
      constructor
      · intro hfirst
        have hmem := List.mem_of_head? hfirst
        rw [b.uploadDestination_eq rfl, mem_fetchSources_iff] at hmem
        exact main_mem_layers_iff.1 hmem.2
      · intro hbase
        unfold fetchSources
        rw [if_neg hbase]
        rfl
    case main_left_out =>
      intro hbase head' hmem
      rw [b.uploadDestination_eq rfl, mem_fetchSources_iff] at hmem
      exact main_mem_layers_iff.1 hmem.2 hbase
    case nonempty =>
      rw [fetchSources_eq]
      intro hnone
      exact layers_ne_nil base none (List.map_eq_nil_iff.1 hnone)
    case nodup =>
      intro head'
      rw [fetchSources_eq]
      refine (nodup_layers base head').map ?_
      intro l l' hdir
      exact (b.layerDir_injective ((String.append_left_inj _).1 hdir)).2
    case other_heads =>
      intro version' head' hother hmem
      rw [b.uploadDestination_eq rfl, mem_fetchSources_iff, head_mem_layers_iff] at hmem
      obtain ⟨rfl, hsame, -⟩ := hmem
      exact hother (by rw [Option.some.inj hsame])
    case other_mains =>
      intro version' hother hmem
      rw [b.uploadDestination_eq rfl, mem_fetchSources_iff] at hmem
      exact hother hmem.1
  · intro version version' target target' l l' hl hl' hdir
    rw [b.uploadDestination_eq hl, b.uploadDestination_eq hl'] at hdir
    obtain ⟨hversion, rfl⟩ := b.layerDir_injective hdir
    exact ⟨hversion, UploadTarget.layer?_injective hl hl'⟩

/-- A change to the beta provider that goes into the next major release, and the main layers of two
    versions. -/
theorem published_readBack_major :
    (⟨"ci-vcr-cassettes", "logs", "nightly"⟩ : Buckets).ReadBack .beta majorReleaseBranch "disk-fix" ∧
    (⟨"ci-vcr-cassettes", "logs", "nightly"⟩ : Buckets).uploadDestination .ga .main
      ≠ (⟨"ci-vcr-cassettes", "logs", "nightly"⟩ : Buckets).uploadDestination .beta .main := by
  obtain ⟨hread, hinj⟩ := published_readBack ⟨"ci-vcr-cassettes", "logs", "nightly"⟩
  refine ⟨hread .beta majorReleaseBranch "disk-fix" (by decide), ?_⟩
  intro hdir
  exact absurd (hinj .ga .beta .main .main .main .main rfl rfl hdir).1 (by decide)

end Buckets

end CassetteGate
