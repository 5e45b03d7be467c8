import LuaBinder.Proofs.Store.Growth
import LuaBinder.Store.Output

/-!
What writing a file does to a file system.

* `exists_puts_of_write`: a file that was written stands where its path leads, and elsewhere at
  most directories were added.
* `Rewritable`: a file stands at a path, with the directory above it; what was written once is
  rewritable for good, and `write_of_rewritable` writes it again without any other change.
* `write_ifMissing_of_exists`, `write_ifMissing_of_absent`: a file that is kept where something
  stands at its path.
-/

namespace LuaBinder.Store

open FileSystem

variable {fs fs' : FileSystem} {rule : WriteRule} {base path content : String} {l : Location}

/-! ### The directory above -/

/-- The directory above a path stands. -/
def ParentStands (fs : FileSystem) (path : String) : Prop :=
  ∀ above ∈ parent? path, above = "" ∨ fs.isDirectory above = true

lemma ParentStands.grow (h : ParentStands fs path) (hgrows : Grows fs fs') :
    ParentStands fs' path :=
  fun above habove => (h above habove).imp id hgrows.isDirectory

/-- At most directories are made for a file, and after success the one above it stands. -/
lemma adds_of_makeParent {result : Except WriteError Unit}
    (h : makeParent fs path = (fs', result)) :
    Adds fs fs' ∧ (result = .ok () → ParentStands fs' path) := by
  rw [makeParent] at h
  split at h
  · next hnone =>
      cases h
      refine ⟨Adds.refl fs, fun _ above habove => ?_⟩
      rw [hnone] at habove
      cases habove
  · next above habove =>
      obtain ⟨hadds, hstands⟩ := adds_makeDirectories fs above
      split at h
      · next made hmade =>
          cases h
          rw [hmade] at hadds hstands
          refine ⟨hadds, fun _ other hother => ?_⟩
          rw [habove] at hother
          cases hother
          exact hstands rfl
      · next made hmade =>
          cases h
          rw [hmade] at hadds
          exact ⟨hadds, fun h => by cases h⟩

/-- Where the directory above a path stands nothing is made. -/
lemma makeParent_of_stands (h : ParentStands fs path) : makeParent fs path = (fs, .ok ()) := by
  rw [makeParent]
  cases habove : parent? path with
  | none => rfl
  | some above =>
      dsimp only
      rw [makeDirectories_of_isDirectory (h above habove)]

/-! ### Files -/

/-- The path leads to a file, and the directory above it stands. -/
structure Rewritable (fs : FileSystem) (path : String) (l : Location) : Prop where
  located : fs.locate? path = some l
  file : (fs.fileAt? l).isSome = true
  plain : endsWithSlash path = false
  parent : ParentStands fs path

lemma Rewritable.grow (h : Rewritable fs path l) (hgrows : Grows fs fs') :
    Rewritable fs' path l :=
  ⟨hgrows.locate? h.located (.inl h.plain), hgrows.file h.file, h.plain, h.parent.grow hgrows⟩

/-- A file that was written stands where its path leads, and no other file has changed. -/
lemma exists_puts_of_write (h : write fs rule base path content = (fs', .ok .written)) :
    ∃ l, Puts fs l content.toUTF8 fs' ∧ Rewritable fs' (join base path) l := by
  rw [write] at h
  split at h
  · cases h
  split at h
  · cases h
  next above hparent =>
    obtain ⟨hadds, hstands⟩ := adds_of_makeParent hparent
    split at h
    · next put hput =>
        cases h
        obtain ⟨l, hl, hslash, hputs⟩ := puts_of_put? hput
        refine ⟨l, ⟨hputs.current.trans hadds.current, ?_, hputs.entry, fun k hk => ?_⟩, ?_⟩
        · exact fun hdirectory => hputs.free (hadds.grows.directory hdirectory)
        · -- what was added for the directory above is kept by the file
          rcases hputs.other k hk with heq | ⟨hnone, hdirectory⟩
          · rw [heq]
            exact hadds.entry k
          · rcases hadds.entry k with heq | ⟨-, hmade⟩
            · exact .inr ⟨heq ▸ hnone, hdirectory⟩
            · rw [hmade] at hnone
              cases hnone
        · exact ⟨hputs.grows.locate? hl (.inl hslash), by rw [hputs.fileAt?_eq, if_pos rfl]; rfl,
            hslash, (hstands rfl).grow hputs.grows⟩
    · cases h

/-- A file that stands at a path is written over, and nothing else changes. -/
lemma write_of_rewritable (h : Rewritable fs (join base path) l) (content : String) :
    write fs .always base path content = (fs.set l (.file content.toUTF8), .ok .written) := by
  rw [write]
  rw [if_neg (by simp), makeParent_of_stands h.parent]
  dsimp only
  rw [put?_of_file h.plain h.located h.file]

/-- Without the rule to keep what stands there a file is written or an error arises. -/
lemma ne_kept_of_write_always : (write fs .always base path content).2 ≠ .ok .kept := by
  rw [write]
  rw [if_neg (by simp)]
  split
  · simp
  · split <;> simp

lemma write_ifMissing_of_exists (h : fs.exists? (join base path) = true) (content : String) :
    write fs .ifMissing base path content = (fs, .ok .kept) := by
  rw [write]
  rw [if_pos ⟨rfl, h⟩]

lemma write_ifMissing_of_absent (h : fs.exists? (join base path) = false) (content : String) :
    write fs .ifMissing base path content = write fs .always base path content := by
  rw [write, write]
  rw [if_neg (by simp [h]), if_neg (by simp)]

end LuaBinder.Store
