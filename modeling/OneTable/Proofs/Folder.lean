import OneTable.Proofs.Result
import OneTable.Folder

/-!
# Files that are read back

Bytes that are put in a place of a folder are the bytes of that place, and nothing else in the
folder has changed: the files at other places are what they were, and so are the folders. A path
is followed through folders only, so that a path that leads to a place leads there still.

* `OneTable.Folder.bytes?_put` – what is found at a place after bytes were put in one;
* `OneTable.Folder.target_put` – the place of a file stays the place of the file;
* `OneTable.Folder.read_put` – **a file that was written is read back**;
* `OneTable.Folder.Keeps`, `OneTable.Folder.keeps_put` – the files of other paths are what they
  were.
-/

namespace OneTable.Folder

variable {f : Folder} {place place' : List String} {bytes : List UInt8} {path : String}

/-- **What is found at a place** after bytes were put in one. -/
theorem bytes?_put : (f.put place bytes).bytes? place' =
    if place = place' then some bytes else f.bytes? place' := by
  have hfiles : ∀ files, ((setFile place bytes files).find? fun e => e.1 = place').map Prod.snd =
      if place = place' then some bytes else (files.find? fun e => e.1 = place').map Prod.snd := by
    intro files
    induction files with
    | nil => by_cases h : place = place' <;> simp [setFile, h]
    | cons e files ih =>
      rw [setFile]
      by_cases he : e.1 = place
      · rw [if_pos he]
        by_cases h : place = place'
        · simp [h]
        · simp [h, he]
      · rw [if_neg he]
        by_cases h : e.1 = place'
        · simp [h, Ne.symm (h ▸ he)]
        · simpa [h] using ih
  exact hfiles f.files

/-- A path that can be followed is followed to the same place, whatever was put anywhere. -/
theorem follow_put {start found : List String} {names : List String}
    (h : f.follow start names = .ok found) :
    (f.put place bytes).follow start names = .ok found := by
  induction names generalizing start with
  | nil => exact h
  | cons name rest ih =>
    rw [follow] at h ⊢
    obtain ⟨hlong, h⟩ := guard_eq_ok_iff.1 h
    rw [if_neg hlong]
    by_cases hnext : rest = [] ∨ f.isFolder (enter start name) = true
    · rw [if_pos hnext] at h
      exact (if_pos hnext).trans (ih h)
    · rw [if_neg hnext] at h
      split at h
      · exact absurd h error_ne_ok
      · exact absurd h error_ne_ok

theorem locate_put {found : List String} (h : f.locate path = .ok found) :
    (f.put place bytes).locate path = .ok found := by
  rw [locate] at h ⊢
  obtain ⟨hempty, h⟩ := guard_eq_ok_iff.1 h
  obtain ⟨hzero, h⟩ := guard_eq_ok_iff.1 h
  rw [if_neg hempty, if_neg hzero]
  revert h
  split
  · exact follow_put
  · exact follow_put

theorem target_eq_ok_iff {found : List String} : f.target path = .ok found ↔
    f.locate path = .ok found ∧ f.isFolder found = false ∧ (names path).getLast? ≠ some "" := by
  rw [target]
  rcases f.locate path with e | start
  · simp
  · simp only [guard_eq_ok_iff, not_or, Bool.not_eq_true, Except.ok.injEq]
    constructor
    · rintro ⟨⟨hfolder, hlast⟩, rfl⟩
      exact ⟨rfl, hfolder, hlast⟩
    · rintro ⟨rfl, hfolder, hlast⟩
      exact ⟨⟨hfolder, hlast⟩, rfl⟩

/-- **The place of a file** stays the place of the file, whatever was put anywhere. -/
theorem target_put {found : List String} (h : f.target path = .ok found) :
    (f.put place bytes).target path = .ok found := by
  obtain ⟨hlocate, hrest⟩ := target_eq_ok_iff.1 h
  exact target_eq_ok_iff.2 ⟨locate_put hlocate, hrest⟩

/-- **A file that was written is read back.** -/
theorem read_put (h : f.target path = .ok place) : (f.put place bytes).read path = .ok bytes := by
  rw [read, locate_put (target_eq_ok_iff.1 h).1]
  simp only [bytes?_put, if_pos]

/-! ### The other files -/

/-- A file that can be read is there: its path leads to a place, and there it is. -/
theorem read_eq_ok_iff : f.read path = .ok bytes ↔
    ∃ found, f.locate path = .ok found ∧ f.bytes? found = some bytes := by
  rw [read]
  rcases f.locate path with e | found
  · simp
  · rcases hbytes : f.bytes? found with _ | old
    · by_cases h : f.isFolder found = true <;> simp [hbytes, h]
    · simp [hbytes]

/-- **Files are kept** in another folder: what could be read under their paths is read there
still. -/
def Keeps (f f' : Folder) (paths : List String) : Prop :=
  ∀ path ∈ paths, ∀ bytes, f.read path = .ok bytes → f'.read path = .ok bytes

theorem Keeps.refl (f : Folder) (paths : List String) : f.Keeps f paths :=
  fun _ _ _ h => h

theorem Keeps.trans {f' f'' : Folder} {paths : List String} (h : f.Keeps f' paths)
    (h' : f'.Keeps f'' paths) : f.Keeps f'' paths :=
  fun path hpath bytes hbytes => h' path hpath bytes (h path hpath bytes hbytes)

theorem Keeps.subset {f' : Folder} {paths paths' : List String} (h : f.Keeps f' paths)
    (hsub : paths' ⊆ paths) : f.Keeps f' paths' :=
  fun path hpath => h path (hsub hpath)

/-- **Files are kept** where bytes are put in a place to which none of their paths leads. -/
theorem keeps_put {paths : List String} (h : ∀ path ∈ paths, f.locate path ≠ .ok place) :
    f.Keeps (f.put place bytes) paths := by
  intro path hpath old hold
  obtain ⟨found, hfound, hbytes⟩ := read_eq_ok_iff.1 hold
  have hne : place ≠ found := fun heq => h path hpath (heq ▸ hfound)
  exact read_eq_ok_iff.2 ⟨found, locate_put hfound, by rw [bytes?_put, if_neg hne, hbytes]⟩

end OneTable.Folder
