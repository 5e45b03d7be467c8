import Mathlib.Tactic
import LuaBinder.Store.FileSystem

/-!
File systems that only grow.

Nothing is ever removed from a file system, so a path that leads somewhere goes on leading there.

* `fileAt?`: the content of the file at a location.
* `Grows`: directories stay directories and files stay files; `Grows.locate?` keeps what a path
  leads to.
* `Adds`: at most directories were added; `Puts`: a file was put at a location besides.
* `adds_makeDirectories`: the directories of a path are made where nothing stood.
* `puts_of_put?`: a file is put where its path leads, and nowhere else.
* `Refills`: at most the contents of files were changed.
* `exists_name_of_locate?`: the location of a path ends with the last name of the path.
-/

namespace LuaBinder.Store.FileSystem

open Text

variable {fs fs' fs'' : FileSystem} {l k : Location} {path : String} {content : ByteArray}

/-! ### Entries -/

/-- The content of the file at a location. -/
def fileAt? (fs : FileSystem) (l : Location) : Option ByteArray :=
  match fs.lookup? l with
  | some (.file content) => some content
  | _ => none

lemma fileAt?_eq_some_iff : fs.fileAt? l = some content ↔ fs.lookup? l = some (.file content) := by
  rw [fileAt?]
  split <;> simp_all

lemma fileAt?_of_directory (h : fs.lookup? l = some .directory) : fs.fileAt? l = none := by
  rw [fileAt?, h]

lemma isDirectoryAt_iff : fs.isDirectoryAt l = true ↔ fs.lookup? l = some .directory := by
  rw [isDirectoryAt]
  split <;> simp_all

lemma lookup?_root (fs : FileSystem) : fs.lookup? [] = some .directory := rfl

/-- Below the root the entry that was set stands, and no other location changes. -/
lemma lookup?_set_of_ne_nil (h : l ≠ []) (k : Location) (e : Entry) :
    (fs.set l e).lookup? k = if k = l then some e else fs.lookup? k := by
  rw [lookup?_set]
  cases k with
  | nil => rw [if_neg (Ne.symm h)]; rfl
  | cons s ss => rfl

/-! ### Growth -/

/-- Directories stay directories and files stay files, whatever they hold. -/
structure Grows (fs fs' : FileSystem) : Prop where
  current : fs'.current = fs.current
  directory : ∀ {l}, fs.lookup? l = some .directory → fs'.lookup? l = some .directory
  file : ∀ {l}, (fs.fileAt? l).isSome = true → (fs'.fileAt? l).isSome = true

namespace Grows

lemma refl (fs : FileSystem) : Grows fs fs := ⟨rfl, id, id⟩

lemma trans (h : Grows fs fs') (h' : Grows fs' fs'') : Grows fs fs'' :=
  ⟨h'.current.trans h.current, fun hl => h'.directory (h.directory hl),
    fun hl => h'.file (h.file hl)⟩

/-- The steps of a path go through the same directories. -/
lemma walk (h : Grows fs fs') {steps : List String} (hl : fs.walk l steps = some k) :
    fs'.walk l steps = some k := by
  induction steps generalizing l with
  | nil => exact hl
  | cons s ss ih =>
      rw [FileSystem.walk] at hl ⊢
      split at hl
      · next hstep =>
          rw [Bool.and_eq_true, isDirectoryAt_iff] at hstep
          have hstep' : (fs'.isDirectoryAt l && isName s) = true := by
            rw [Bool.and_eq_true, isDirectoryAt_iff]
            exact ⟨h.directory hstep.1, hstep.2⟩
          rw [if_pos hstep']
          exact ih hl
      · cases hl

end Grows

/-! ### Paths -/

lemma locate?_eq_some_iff : fs.locate? path = some l ↔ (path ≠ "" ∧ isUsable path = true)
    ∧ fs.walk (fs.origin path) (steps path) = some l
    ∧ (endsWithSlash path = true → fs.fileAt? l = none) := by
  rw [locate?]
  by_cases hpath : path ≠ "" ∧ isUsable path = true
  · rw [if_neg (by simpa using hpath), Option.filter_eq_some_iff, and_iff_right hpath,
      Bool.or_eq_true, Bool.not_eq_true', ← Bool.not_eq_true, imp_iff_not_or]
    refine and_congr_right fun _ => or_congr_right ?_
    rw [fileAt?]
    cases fs.lookup? l with
    | none => simp
    | some e => cases e <;> simp
  · rw [if_pos (by simpa [or_iff_not_imp_left] using hpath)]
    simp [hpath]

/-- A path goes on leading to a file or to a directory, unless it ends with a slash where no
directory stood. -/
lemma Grows.locate? (h : Grows fs fs') (hl : fs.locate? path = some l)
    (hkind : endsWithSlash path = false ∨ fs.lookup? l = some .directory) :
    fs'.locate? path = some l := by
  obtain ⟨hpath, hwalk, -⟩ := locate?_eq_some_iff.mp hl
  refine locate?_eq_some_iff.mpr ⟨hpath, ?_, fun hslash => ?_⟩
  · rw [origin, h.current]
    exact h.walk hwalk
  · rcases hkind with hplain | hdirectory
    · rw [hplain] at hslash
      cases hslash
    · exact fileAt?_of_directory (h.directory hdirectory)

lemma isDirectory_iff : fs.isDirectory path = true
    ↔ ∃ l, fs.locate? path = some l ∧ fs.lookup? l = some .directory := by
  have hstat : fs.isDirectory path = true ↔ fs.stat? path = some .directory := by
    rw [isDirectory]
    split <;> simp_all
  rw [hstat, stat?, Option.bind_eq_some_iff]

lemma exists?_iff : fs.exists? path = true
    ↔ ∃ l, fs.locate? path = some l ∧ fs.lookup? l ≠ none := by
  rw [exists?, stat?, Option.isSome_iff_ne_none, Ne, Option.bind_eq_none_iff]
  push Not
  rfl

lemma Grows.isDirectory (h : Grows fs fs') (hpath : fs.isDirectory path = true) :
    fs'.isDirectory path = true := by
  obtain ⟨l, hl, hdirectory⟩ := isDirectory_iff.mp hpath
  exact isDirectory_iff.mpr ⟨l, h.locate? hl (.inr hdirectory), h.directory hdirectory⟩

/-- Something goes on standing at a path that does not end with a slash. -/
lemma Grows.exists? (h : Grows fs fs') (hplain : endsWithSlash path = false)
    (hpath : fs.exists? path = true) : fs'.exists? path = true := by
  obtain ⟨l, hl, hsome⟩ := exists?_iff.mp hpath
  refine exists?_iff.mpr ⟨l, h.locate? hl (.inl hplain), ?_⟩
  cases hentry : fs.lookup? l with
  | none => exact absurd hentry hsome
  | some e =>
      cases e with
      | directory => rw [h.directory hentry]; simp
      | file content =>
          have hfile : (fs.fileAt? l).isSome = true := by
            rw [fileAt?_eq_some_iff.mpr hentry]
            rfl
          obtain ⟨content', hcontent⟩ := Option.isSome_iff_exists.mp (h.file hfile)
          rw [fileAt?_eq_some_iff.mp hcontent]
          simp

/-! ### Directories -/

/-- At most directories were added, where nothing stood. -/
structure Adds (fs fs' : FileSystem) : Prop where
  current : fs'.current = fs.current
  entry : ∀ l, fs'.lookup? l = fs.lookup? l
    ∨ fs.lookup? l = none ∧ fs'.lookup? l = some .directory

namespace Adds

lemma refl (fs : FileSystem) : Adds fs fs := ⟨rfl, fun _ => .inl rfl⟩

lemma trans (h : Adds fs fs') (h' : Adds fs' fs'') : Adds fs fs'' := by
  refine ⟨h'.current.trans h.current, fun l => ?_⟩
  rcases h.entry l with heq | ⟨hnone, hdirectory⟩
  · rw [← heq]
    exact h'.entry l
  · rcases h'.entry l with heq | ⟨hnone', -⟩
    · exact .inr ⟨hnone, heq.trans hdirectory⟩
    · rw [hdirectory] at hnone'
      cases hnone'

lemma fileAt?_eq (h : Adds fs fs') (l : Location) : fs'.fileAt? l = fs.fileAt? l := by
  rcases h.entry l with heq | ⟨hnone, hdirectory⟩
  · rw [fileAt?, fileAt?, heq]
  · rw [fileAt?, fileAt?, hnone, hdirectory]

lemma grows (h : Adds fs fs') : Grows fs fs' := by
  refine ⟨h.current, fun {l} hl => ?_, fun {l} hl => by rwa [h.fileAt?_eq]⟩
  rcases h.entry l with heq | ⟨hnone, -⟩
  · exact heq.trans hl
  · rw [hl] at hnone
    cases hnone

end Adds

/-- A new directory stands where the path leads, and nothing else changes. -/
lemma makeDirectory?_eq_some (h : fs.makeDirectory? path = some fs') :
    Adds fs fs' ∧ fs'.isDirectory path = true := by
  rw [makeDirectory?] at h
  cases hl : fs.locate? path with
  | none => rw [hl] at h; cases h
  | some l =>
      rw [hl] at h
      cases hnone : fs.lookup? l with
      | some e => simp [hnone] at h
      | none =>
          simp only [hnone] at h
          split at h
          · cases h
            have hne : l ≠ [] := by
              rintro rfl
              cases hnone
            have hadds : Adds fs (fs.set l .directory) := by
              refine ⟨rfl, fun k => ?_⟩
              rw [lookup?_set_of_ne_nil hne]
              split
              · next heq => exact .inr ⟨heq ▸ hnone, rfl⟩
              · exact .inl rfl
            have hlookup : (fs.set l .directory).lookup? l = some .directory := by
              rw [lookup?_set_of_ne_nil hne, if_pos rfl]
            refine ⟨hadds, isDirectory_iff.mpr ⟨l, ?_, hlookup⟩⟩
            obtain ⟨hpath, hwalk, -⟩ := locate?_eq_some_iff.mp hl
            refine locate?_eq_some_iff.mpr ⟨hpath, ?_, fun _ => fileAt?_of_directory hlookup⟩
            rw [origin, hadds.current]
            exact hadds.grows.walk hwalk
          · cases h

/-- Directories are made where nothing stood, and after success that of the path stands. -/
lemma adds_makeDirectoriesFrom (fuel : Nat) (fs : FileSystem) (path : String) :
    Adds fs (makeDirectoriesFrom fuel fs path).1
      ∧ ((makeDirectoriesFrom fuel fs path).2 = true →
        path = "" ∨ (makeDirectoriesFrom fuel fs path).1.isDirectory path = true) := by
  induction fuel generalizing fs path with
  | zero => exact ⟨Adds.refl fs, .inr⟩
  | succ fuel ih =>
      rw [makeDirectoriesFrom]
      split
      · next hempty => exact ⟨Adds.refl fs, fun _ => .inl (by simpa using hempty)⟩
      split
      · exact ⟨Adds.refl fs, fun h => by cases h⟩
      split
      · next made hmade =>
          obtain ⟨hadds, hdirectory⟩ := makeDirectory?_eq_some hmade
          exact ⟨hadds, fun _ => .inr hdirectory⟩
      split
      · exact ⟨Adds.refl fs, .inr⟩
      split
      · exact ⟨Adds.refl fs, fun h => by cases h⟩
      next above _ =>
        -- the directory above is made first, then the path is tried again
        obtain ⟨habove, -⟩ := ih fs above
        split
        · next below hbelow =>
            rw [hbelow] at habove
            exact ⟨habove, fun h => by cases h⟩
        · next below hbelow =>
            rw [hbelow] at habove
            split
            · next made hmade =>
                obtain ⟨hadds, hdirectory⟩ := makeDirectory?_eq_some hmade
                exact ⟨habove.trans hadds, fun _ => .inr hdirectory⟩
            · exact ⟨habove, .inr⟩

lemma adds_makeDirectories (fs : FileSystem) (path : String) :
    Adds fs (fs.makeDirectories path).1 ∧ ((fs.makeDirectories path).2 = true →
      path = "" ∨ (fs.makeDirectories path).1.isDirectory path = true) :=
  adds_makeDirectoriesFrom _ fs path

/-- Where the directory of a path stands nothing is made. -/
lemma makeDirectories_of_isDirectory (h : path = "" ∨ fs.isDirectory path = true) :
    fs.makeDirectories path = (fs, true) := by
  rw [makeDirectories, makeDirectoriesFrom]
  rcases h with rfl | h
  · rfl
  · obtain ⟨l, hl, hdirectory⟩ := isDirectory_iff.mp h
    obtain ⟨⟨hne, husable⟩, -, -⟩ := locate?_eq_some_iff.mp hl
    have hnone : fs.makeDirectory? path = none := by
      simp only [makeDirectory?, hl, hdirectory]
    have hstands : ((fs.locate? path).bind fs.lookup?).isSome = true := by
      rw [hl, Option.bind_some, hdirectory]
      rfl
    rw [if_neg (by simpa using hne), if_neg (by simpa using husable), hnone]
    dsimp only
    rw [if_pos hstands, h]

/-! ### Files -/

/-- A file was put at a location where no directory stood, and elsewhere at most directories were
added. -/
structure Puts (fs : FileSystem) (l : Location) (content : ByteArray) (fs' : FileSystem) :
    Prop where
  current : fs'.current = fs.current
  free : fs.lookup? l ≠ some .directory
  entry : fs'.lookup? l = some (.file content)
  other : ∀ k ≠ l, fs'.lookup? k = fs.lookup? k
    ∨ fs.lookup? k = none ∧ fs'.lookup? k = some .directory

namespace Puts

lemma fileAt?_eq (h : Puts fs l content fs') (k : Location) :
    fs'.fileAt? k = if k = l then some content else fs.fileAt? k := by
  split
  · next heq => exact fileAt?_eq_some_iff.mpr (heq ▸ h.entry)
  · next hne =>
      rcases h.other k hne with heq | ⟨hnone, hdirectory⟩
      · rw [fileAt?, fileAt?, heq]
      · rw [fileAt?, fileAt?, hnone, hdirectory]

lemma grows (h : Puts fs l content fs') : Grows fs fs' := by
  refine ⟨h.current, fun {k} hk => ?_, fun {k} hk => ?_⟩
  · have hne : k ≠ l := fun heq => h.free (heq ▸ hk)
    rcases h.other k hne with heq | ⟨hnone, -⟩
    · exact heq.trans hk
    · rw [hk] at hnone
      cases hnone
  · rw [h.fileAt?_eq]
    split
    · rfl
    · exact hk

end Puts

/-- A file set where no directory stands. -/
lemma puts_set (h : fs.lookup? l ≠ some .directory) (content : ByteArray) :
    Puts fs l content (fs.set l (.file content)) := by
  have hne : l ≠ [] := fun heq => h (heq ▸ lookup?_root fs)
  refine ⟨rfl, h, ?_, fun k hk => .inl ?_⟩
  · rw [lookup?_set_of_ne_nil hne, if_pos rfl]
  · rw [lookup?_set_of_ne_nil hne, if_neg hk]

/-- A file is put where its path leads, and its path does not end with a slash. -/
lemma puts_of_put? (h : fs.put? path content = some fs') : ∃ l,
    fs.locate? path = some l ∧ endsWithSlash path = false ∧ Puts fs l content fs' := by
  rw [put?] at h
  split at h
  · cases h
  · next hslash =>
      cases hl : fs.locate? path with
      | none => rw [hl] at h; cases h
      | some l =>
          refine ⟨l, rfl, by simpa using hslash, ?_⟩
          rw [hl] at h
          dsimp only at h
          split at h
          · cases h
          · next hfile =>
              cases h
              exact puts_set (by rw [hfile]; simp) content
          · next hnone =>
              split at h
              · cases h
                exact puts_set (by rw [hnone]; simp) content
              · cases h

/-- A file that stands at a path is written over. -/
lemma put?_of_file (hslash : endsWithSlash path = false) (hl : fs.locate? path = some l)
    (hfile : (fs.fileAt? l).isSome = true) (content : ByteArray) :
    fs.put? path content = some (fs.set l (.file content)) := by
  obtain ⟨old, hold⟩ := Option.isSome_iff_exists.mp hfile
  rw [fileAt?_eq_some_iff] at hold
  rw [put?, if_neg (by simp [hslash]), hl]
  dsimp only
  rw [hold]

/-! ### Contents -/

/-- At most the contents of files were changed. -/
def Refills (fs fs' : FileSystem) : Prop := ∀ l, fs'.lookup? l = fs.lookup? l
  ∨ (fs.fileAt? l).isSome = true ∧ (fs'.fileAt? l).isSome = true

namespace Refills

lemma refl (fs : FileSystem) : Refills fs fs := fun _ => .inl rfl

lemma trans (h : Refills fs fs') (h' : Refills fs' fs'') : Refills fs fs'' := by
  have hfile : ∀ {a b : FileSystem} {l}, a.lookup? l = b.lookup? l → a.fileAt? l = b.fileAt? l :=
    fun heq => by rw [fileAt?, fileAt?, heq]
  intro l
  rcases h l with heq | ⟨hl, hl'⟩
  · rcases h' l with heq' | ⟨hl', hl''⟩
    · exact .inl (heq'.trans heq)
    · exact .inr ⟨hfile heq ▸ hl', hl''⟩
  · rcases h' l with heq' | ⟨-, hl''⟩
    · exact .inr ⟨hl, hfile heq' ▸ hl'⟩
    · exact .inr ⟨hl, hl''⟩

/-- Where files hold what they held, nothing was changed. -/
lemma lookup?_eq (h : Refills fs fs') (hl : fs'.fileAt? l = fs.fileAt? l) :
    fs'.lookup? l = fs.lookup? l := by
  rcases h l with heq | ⟨hfile, -⟩
  · exact heq
  · obtain ⟨content, hcontent⟩ := Option.isSome_iff_exists.mp hfile
    rw [hcontent] at hl
    rw [fileAt?_eq_some_iff.mp hcontent, fileAt?_eq_some_iff.mp hl]

end Refills

/-- A file set where a file stood. -/
lemma refills_set (h : (fs.fileAt? l).isSome = true) (content : ByteArray) :
    Refills fs (fs.set l (.file content)) := by
  have hfree : fs.lookup? l ≠ some .directory := by
    intro hdirectory
    rw [fileAt?_of_directory hdirectory] at h
    cases h
  have hne : l ≠ [] := by
    rintro rfl
    exact hfree (lookup?_root fs)
  intro k
  by_cases heq : k = l
  · subst heq
    exact .inr ⟨h, by rw [(puts_set hfree content).fileAt?_eq, if_pos rfl]; rfl⟩
  · rw [lookup?_set_of_ne_nil hne, if_neg heq]
    exact .inl rfl

/-! ### Names -/

/-- The last piece of a list goes to its end. -/
lemma exists_pieces_append_singleton {c sep : Char} (hc : (c == sep) = false) (cs : List Char) :
    ∃ ps p, pieces (· == sep) (cs ++ [c]) = ps ++ [p ++ [c]] := by
  induction cs with
  | nil => exact ⟨[], [], by simp [pieces, hc]⟩
  | cons d cs ih =>
      obtain ⟨ps, p, hpieces⟩ := ih
      rw [List.cons_append, pieces, hpieces]
      split
      · exact ⟨[] :: ps, p, rfl⟩
      · cases ps with
        | nil => exact ⟨[], d :: p, rfl⟩
        | cons first ps => exact ⟨(d :: first) :: ps, p, rfl⟩

/-- The steps of a path end with a name that ends as the path does. -/
lemma exists_steps_append_singleton {c : Char} (hpath : endsWith c path = true) (hc : c ≠ '/') :
    ∃ above name, steps path = above ++ [name] ∧ endsWith c name = true := by
  rw [endsWith, beq_iff_eq] at hpath
  obtain ⟨cs, hcs⟩ := List.getLast?_eq_some_iff.mp hpath
  have hkeep : (c == '/') = false := by simpa using hc
  obtain ⟨ps, p, hpieces⟩ := exists_pieces_append_singleton hkeep cs
  refine ⟨(ps.map String.ofList).filter (! ·.isEmpty), String.ofList (p ++ [c]), ?_, ?_⟩
  · rw [steps, segments, hcs, hpieces, List.map_append, List.filter_append, List.map_singleton,
      List.filter_cons_of_pos (by simp), List.filter_nil]
  · rw [endsWith, String.toList_ofList, List.getLast?_concat, beq_self_eq_true]

/-- Steps lead to a location that ends with the last of them, unless it is a dot or two. -/
lemma exists_eq_append_of_walk {steps : List String} {name : String}
    (h : fs.walk l (steps ++ [name]) = some k) (hdot : name ≠ ".") (hdots : name ≠ "..") :
    ∃ above, k = above ++ [name] := by
  induction steps generalizing l with
  | nil =>
      rw [List.nil_append, FileSystem.walk] at h
      split at h
      · rw [if_neg (by simpa using hdot), if_neg (by simpa using hdots), FileSystem.walk] at h
        exact ⟨l, (Option.some.inj h).symm⟩
      · cases h
  | cons step steps ih =>
      rw [List.cons_append, FileSystem.walk] at h
      split at h
      · exact ih h
      · cases h

/-- The location of a path ends with a name that ends as the path does. -/
lemma exists_name_of_locate? {c : Char} (hl : fs.locate? path = some l)
    (hpath : endsWith c path = true) (hslash : c ≠ '/') (hdot : c ≠ '.') :
    ∃ above name, l = above ++ [name] ∧ endsWith c name = true := by
  obtain ⟨-, hwalk, -⟩ := locate?_eq_some_iff.mp hl
  obtain ⟨front, name, hsteps, hname⟩ := exists_steps_append_singleton hpath hslash
  have hne : ∀ dots : String, endsWith '.' dots = true → name ≠ dots := by
    rintro dots hdots rfl
    rw [endsWith, beq_iff_eq] at hname hdots
    rw [hname] at hdots
    exact hdot (Option.some.inj hdots)
  rw [hsteps] at hwalk
  obtain ⟨above, rfl⟩ := exists_eq_append_of_walk hwalk (hne "." (by decide)) (hne ".." (by decide))
  exact ⟨above, name, rfl, hname⟩

end LuaBinder.Store.FileSystem
