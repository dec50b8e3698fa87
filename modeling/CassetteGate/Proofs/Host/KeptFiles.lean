import CassetteGate.Host.Sandbox

/-!
# `Proofs.Host.KeptFiles` — requests that leave files alone

Some requests of a machine cannot change a file, whatever the machine is like: questions, because they
change nothing at all, and making directories, because a directory is only made where there is nothing.
For a machine that is held in memory this is proved of the file system: a change that adds directories
and does nothing else (`FileSystem.Grown`) is one that can be repeated, so it is enough to look at a
single request, and what holds of one holds of any number of them (`grown_after`).

## Contents
- **`FileSystem.Grown`**, and `grown_createDirectories`: directories are added, and that is all.
- **`Host.Request.changesNothing`**, **`Host.Request.KeepsFiles`**: the two kinds of request.
- **`Sandbox.after`**, `state_play`: a machine behind some exchanges.
- **`Sandbox.grown_after`**, **`Sandbox.files_after`**: files behind requests of these kinds.
-/

namespace CassetteGate

/-! ## Directories are added -/

namespace FileSystem

variable {fs grown : FileSystem}

/-- Directories were added where there was nothing, and all else is as it was. -/
def Grown (fs grown : FileSystem) : Prop :=
  ∀ l, grown.at? l = fs.at? l ∨ (fs.at? l = none ∧ grown.at? l = some .directory)

theorem Grown.refl (fs : FileSystem) : fs.Grown fs := fun _ => .inl rfl

theorem Grown.trans {later : FileSystem} (h : fs.Grown grown) (hlater : grown.Grown later) :
    fs.Grown later := by
  intro l
  rcases h l with hsame | ⟨hnone, hmade⟩
  · rw [← hsame]
    exact hlater l
  · -- a directory that was made before is one that was there
    refine .inr ⟨hnone, ?_⟩
    rcases hlater l with hkept | ⟨hmissing, -⟩
    · rw [hkept, hmade]
    · rw [hmade] at hmissing
      cases hmissing

/-- The files are the same, each with its text. -/
theorem Grown.file_iff (h : fs.Grown grown) {l : Location} {text : String} :
    grown.at? l = some (.file text) ↔ fs.at? l = some (.file text) := by
  rcases h l with hsame | ⟨hnone, hmade⟩
  · rw [hsame]
  · rw [hnone, hmade]
    exact iff_of_false nofun nofun

theorem lookup_filter_ne {entries : List (Location × Entry)} {l m : Location} (h : m ≠ l) :
    (entries.filter fun e => e.1 ≠ l).lookup m = entries.lookup m := by
  induction entries with
  | nil => rfl
  | cons e entries ih =>
      obtain ⟨place, entry⟩ := e
      by_cases hl : place = l
      · have hm : (m == place) = false := beq_false_of_ne (hl ▸ h)
        rw [List.filter_cons_of_neg (by simp [hl]), ih, List.lookup_cons, hm]
      · rw [List.filter_cons_of_pos (by simp [hl]), List.lookup_cons, List.lookup_cons, ih]

theorem grown_put {l : Location} (h : fs.at? l = none) : fs.Grown (fs.put l .directory) := by
  intro m
  by_cases hm : m = l
  · subst hm
    refine .inr ⟨h, ?_⟩
    unfold at? put at *
    split at h
    · cases h
    · next hne => rw [if_neg hne, List.lookup_cons, BEq.rfl]
  · refine .inl ?_
    unfold at? put
    split
    · rfl
    · rw [List.lookup_cons, beq_false_of_ne hm]
      exact lookup_filter_ne hm

variable {top : Location} {names : List String}

theorem grown_makeDirectory (h : fs.makeDirectory top names = .ok grown) : fs.Grown grown := by
  unfold makeDirectory at h
  cases hl : fs.follow top names with
  | error e =>
      rw [hl] at h
      cases h
  | ok l =>
      rw [hl] at h
      dsimp only [bind, Except.bind] at h
      split at h
      · cases h
      · next hnone =>
          obtain rfl := Except.ok.inj h
          exact grown_put hnone

theorem grown_ensureDirectory (fs : FileSystem) (top : Location) (names : List String) :
    fs.Grown (fs.ensureDirectory top names).2 := by
  unfold ensureDirectory
  cases hmade : fs.makeDirectory top names with
  | ok changed => exact grown_makeDirectory hmade
  | error e => exact .refl fs

theorem grown_makeAll (fs : FileSystem) (top : Location) (names above : List String) :
    fs.Grown (fs.makeAll top names above).2 := by
  -- by induction on the names above, each of which is made by itself before those below it
  induction above generalizing names with
  | nil => exact grown_ensureDirectory fs top names
  | cons name above ih =>
      unfold makeAll
      split
      · have habove := ih (name :: above).reverse
        split
        · next made hmade =>
            rw [hmade] at habove
            exact habove.trans (grown_ensureDirectory made top names)
        · next e made hmade =>
            rw [hmade] at habove
            exact habove
      · exact grown_ensureDirectory fs top names

/-- **Making a directory, and those above it, adds directories and does nothing else**, whether it is
    refused in the end or not. -/
theorem grown_createDirectories (fs : FileSystem) (cwd : Location) (p : Path) :
    fs.Grown (fs.createDirectories cwd p).2 := by
  unfold createDirectories
  split
  · exact .refl fs
  · split
    · exact .refl fs
    · exact grown_makeAll fs _ _ _

end FileSystem

/-! ## Kinds of request -/

namespace Host

/-- Whether a request can change nothing about files. A process is another matter, but its start is
    none. -/
def Request.changesNothing : Request → Bool
  | .isDirectory _ => true
  | .readFile _ => true
  | .execute _ => true
  | .post _ => true
  | .pause _ => true
  | .log _ => true
  | _ => false

/-- A request that leaves all files as they are. -/
def Request.KeepsFiles (q : Request) : Prop :=
  q.changesNothing = true ∨ ∃ dir, q = .createDirectories dir

end Host

/-! ## A machine behind some exchanges -/

namespace Sandbox

open Host

variable {α : Type} {s : Sandbox} {exchanges : List (Exchange Request.Answer)}

/-- The machine when it has been asked what these exchanges ask, one after the other. -/
def after (s : Sandbox) (exchanges : List (Exchange Request.Answer)) : Sandbox :=
  exchanges.foldl (fun s e => (answer e.request s).2) s

/-- What a program leaves behind is the machine behind its exchanges. -/
theorem state_play (p : HostProgram α) (s : Sandbox) :
    (p.play answer s).state = s.after (p.play answer s).exchanges := by
  induction p generalizing s with
  | done a => rfl
  | ask q next ih => exact ih (answer q s).1 (answer q s).2

theorem files_execute (s : Sandbox) (c : Command) : (s.execute c).2.files = s.files := by
  unfold execute
  split <;> rfl

theorem files_send (s : Sandbox) (p : WebPost) : (s.send p).2.files = s.files := by
  unfold send
  split
  · rfl
  · split <;> rfl

theorem files_answer {q : Request} (h : q.changesNothing = true) (s : Sandbox) :
    (answer q s).2.files = s.files := by
  cases q with
  | isDirectory p => rfl
  | readFile p => rfl
  | execute c => exact files_execute s c
  | post p => exact files_send s p
  | pause millis => rfl
  | log line => rfl
  | _ => cases h

theorem grown_answer {q : Request} (h : q.KeepsFiles) (s : Sandbox) :
    s.files.Grown (answer q s).2.files := by
  rcases h with hnothing | ⟨dir, rfl⟩
  · rw [files_answer hnothing]
    exact .refl s.files
  · exact s.files.grown_createDirectories s.cwd dir

/-- **Behind requests that keep files, directories were added and nothing else was done.** -/
theorem grown_after (h : ∀ e ∈ exchanges, e.request.KeepsFiles) :
    s.files.Grown (s.after exchanges).files := by
  induction exchanges generalizing s with
  | nil => exact .refl _
  | cons e exchanges ih =>
      obtain ⟨he, hrest⟩ := List.forall_mem_cons.1 h
      exact (grown_answer he s).trans (ih hrest)

/-- **Behind requests that change nothing, the files are what they were.** -/
theorem files_after (h : ∀ e ∈ exchanges, e.request.changesNothing = true) :
    (s.after exchanges).files = s.files := by
  induction exchanges generalizing s with
  | nil => rfl
  | cons e exchanges ih =>
      obtain ⟨he, hrest⟩ := List.forall_mem_cons.1 h
      exact (ih hrest).trans (files_answer he s)

end Sandbox

end CassetteGate
