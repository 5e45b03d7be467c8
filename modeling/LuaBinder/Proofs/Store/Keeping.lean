import LuaBinder.Proofs.Store.Writing

/-!
What becomes of existing files when only missing ones are written.

Whether a file is missing is looked up before the directories above it are made, and the file is put
afterwards. A path that goes through a missing directory and back up leads nowhere at first, and in
the end to a file that may have stood all the time.

* `Detour`: a path that leads to an existing file only once the directories above it are made.
* `Draft.fileAt?_writeMissing_of_detour`, `Draft.fileAt?_writeMissing_of_not_detour`: a write
  replaces the file that its path makes a detour to, and no other.
* `writeDrafts`, `keepsFiles_iff`: a sequence of writes, and when it keeps all existing files.
* `Closed`: directories stand above every entry, which every write preserves.
* `Detour.goes_up`: then a path makes a detour only if it goes up.
* `existing_kept_iff`: when existing files are kept.
-/

namespace LuaBinder.Store

open FileSystem

variable {fs fs' : FileSystem} {path : String} {l k : Location}

/-! ### One write -/

/-- A path leads nowhere, but once the directories above it are made it leads to a file that stood
before. -/
structure Detour (fs : FileSystem) (path : String) (l : Location) : Prop where
  lost : fs.locate? path = none
  made : (makeParent fs path).2 = .ok ()
  found : (makeParent fs path).1.locate? path = some l
  file : (fs.fileAt? l).isSome = true

/-- A file to be written below a base directory. -/
structure Draft where
  base : String
  path : String
  content : String

/-- The path of the file. -/
def Draft.target (d : Draft) : String := join d.base d.path

/-- The file system after the file was written, unless something stood at its path. -/
def Draft.writeMissing (d : Draft) (fs : FileSystem) : FileSystem :=
  (write fs .ifMissing d.base d.path d.content).1

lemma lookup?_ne_none_of_file (h : (fs.fileAt? l).isSome = true) : fs.lookup? l ≠ none := by
  intro hnone
  rw [fileAt?, hnone] at h
  cases h

lemma lookup?_ne_directory_of_file (h : (fs.fileAt? l).isSome = true) :
    fs.lookup? l ≠ some .directory := by
  intro hdirectory
  rw [fileAt?_of_directory hdirectory] at h
  cases h

/-- Making the directory above a path leaves all files as they are. -/
lemma fileAt?_makeParent (fs : FileSystem) (path : String) (l : Location) :
    (makeParent fs path).1.fileAt? l = fs.fileAt? l :=
  (adds_of_makeParent rfl).1.fileAt?_eq l

/-- A path at which nothing stood leads to an existing file only if it led nowhere. -/
lemma locate?_eq_none_of_adds (hadds : Adds fs fs') (habsent : fs.exists? path = false)
    (hl : fs'.locate? path = some l) (hfile : (fs.fileAt? l).isSome = true) :
    fs.locate? path = none := by
  rw [Option.eq_none_iff_forall_ne_some]
  intro m hm
  have hwalk := hadds.grows.walk (locate?_eq_some_iff.mp hm).2.1
  have hwalk' := (locate?_eq_some_iff.mp hl).2.1
  rw [origin, hadds.current] at hwalk'
  have heq : m = l := Option.some.inj (hwalk.symm.trans hwalk')
  have hstands : fs.exists? path = true :=
    exists?_iff.mpr ⟨m, hm, heq ▸ lookup?_ne_none_of_file hfile⟩
  rw [hstands] at habsent
  cases habsent

lemma Detour.exists? (h : Detour fs path l) : fs.exists? path = false := by
  rw [FileSystem.exists?, stat?, h.lost]
  rfl

/-- A path that makes a detour does not end with a slash. -/
lemma Detour.plain (h : Detour fs path l) : endsWithSlash path = false := by
  rw [Bool.eq_false_iff]
  intro hslash
  have hnone := (locate?_eq_some_iff.mp h.found).2.2 hslash
  rw [fileAt?_makeParent] at hnone
  have hfile := h.file
  rw [hnone] at hfile
  cases hfile

namespace Draft

variable (d : Draft)

/-- Where nothing stood at the path, the directories above are made, and the file is put if it can
be. -/
lemma writeMissing_of_absent (h : fs.exists? d.target = false) :
    d.writeMissing fs = match (makeParent fs d.target).2 with
      | .error _ => (makeParent fs d.target).1
      | .ok () => ((makeParent fs d.target).1.put? d.target d.content.toUTF8).getD
        (makeParent fs d.target).1 := by
  rw [writeMissing, write_ifMissing_of_absent h, write, if_neg (by simp), target]
  rcases makeParent fs (join d.base d.path) with ⟨above, _ | _⟩
  · rfl
  · dsimp only
    cases above.put? (join d.base d.path) d.content.toUTF8 <;> rfl

/-- The file that a path makes a detour to is replaced. -/
lemma fileAt?_writeMissing_of_detour (h : Detour fs d.target l) :
    (d.writeMissing fs).fileAt? l = some d.content.toUTF8 := by
  have hfile : ((makeParent fs d.target).1.fileAt? l).isSome = true := by
    rw [fileAt?_makeParent]
    exact h.file
  have hfree : (makeParent fs d.target).1.lookup? l ≠ some .directory :=
    lookup?_ne_directory_of_file hfile
  rw [d.writeMissing_of_absent h.exists?, h.made]
  dsimp only
  rw [put?_of_file h.plain h.found hfile, Option.getD_some, (puts_set hfree _).fileAt?_eq, if_pos rfl]

/-- Every other file is kept. -/
lemma fileAt?_writeMissing_of_not_detour (h : ¬ Detour fs d.target l)
    (hfile : (fs.fileAt? l).isSome = true) : (d.writeMissing fs).fileAt? l = fs.fileAt? l := by
  cases hexists : fs.exists? d.target with
  | true => rw [writeMissing, write_ifMissing_of_exists hexists]
  | false =>
      rw [d.writeMissing_of_absent hexists, ← fileAt?_makeParent fs d.target]
      split
      · rfl
      · next hmade =>
          cases hput : (makeParent fs d.target).1.put? d.target d.content.toUTF8 with
          | none => rfl
          | some put =>
              obtain ⟨m, hm, -, hputs⟩ := puts_of_put? hput
              rw [Option.getD_some, hputs.fileAt?_eq, if_neg]
              rintro rfl
              exact h ⟨locate?_eq_none_of_adds (adds_of_makeParent rfl).1 hexists hm hfile, hmade,
                hm, hfile⟩

end Draft

/-! ### Sequences of writes -/

/-- The file system after a sequence of writes. -/
def writeDrafts (fs : FileSystem) (ds : List Draft) : FileSystem :=
  ds.foldl (fun fs d => d.writeMissing fs) fs

/-- The files of a file system hold the same in another one. -/
def KeepsFiles (fs fs' : FileSystem) : Prop :=
  ∀ l old, fs.fileAt? l = some old → fs'.fileAt? l = some old

lemma writeDrafts_append_singleton (fs : FileSystem) (ds : List Draft) (d : Draft) :
    writeDrafts fs (ds ++ [d]) = d.writeMissing (writeDrafts fs ds) := by
  rw [writeDrafts, List.foldl_append]
  rfl

/-- A sequence keeps all files at every time exactly when no write of it makes a detour to one of
them and puts something else there. -/
lemma keepsFiles_iff (fs : FileSystem) (ds : List Draft) :
    (∀ ds', ds' <+: ds → KeepsFiles fs (writeDrafts fs ds'))
      ↔ ∀ front d, front ++ [d] <+: ds → ∀ l old, fs.fileAt? l = some old →
        Detour (writeDrafts fs front) d.target l → d.content.toUTF8 = old := by
  constructor
  · intro hkeeps front d hfront l old hold hdetour
    have hlater := hkeeps _ hfront l old hold
    rw [writeDrafts_append_singleton, d.fileAt?_writeMissing_of_detour hdetour] at hlater
    exact Option.some.inj hlater
  · intro hdetours ds' hfront
    -- on the writes that were made, from the last one back
    induction ds' using List.reverseRecOn with
    | nil => exact fun l old hold => hold
    | append_singleton front d ih =>
        intro l old hold
        have hbefore := ih ((List.prefix_append front [d]).trans hfront) l old hold
        rw [writeDrafts_append_singleton]
        by_cases hdetour : Detour (writeDrafts fs front) d.target l
        · rw [d.fileAt?_writeMissing_of_detour hdetour, hdetours front d hfront l old hold hdetour]
        · rw [d.fileAt?_writeMissing_of_not_detour hdetour (by rw [hbefore]; rfl), hbefore]

/-! ### Closed file systems -/

/-- Above every entry stands a directory. -/
def Closed (fs : FileSystem) : Prop :=
  ∀ l, fs.lookup? l ≠ none → fs.lookup? l.dropLast = some .directory

namespace Closed

/-- So do all directories on the way to it. -/
lemma directory_above (h : Closed fs) (hl : fs.lookup? l ≠ none) (hfront : k <+: l)
    (hne : k ≠ l) : fs.lookup? k = some .directory := by
  induction l using List.reverseRecOn with
  | nil => exact absurd (List.prefix_nil.mp hfront) hne
  | append_singleton above name ih =>
      have habove := h _ hl
      rw [List.dropLast_concat] at habove
      rcases List.prefix_concat_iff.mp hfront with heq | hfront
      · exact absurd heq hne
      · by_cases heq : k = above
        · exact heq ▸ habove
        · exact ih (by rw [habove]; simp) hfront heq

/-- An entry below a directory is set, and a directory is not replaced by a file. -/
lemma set (h : Closed fs) (hne : l ≠ []) (habove : fs.lookup? l.dropLast = some .directory)
    {e : Entry} (hentry : fs.lookup? l = some .directory → e = .directory) : Closed (fs.set l e) := by
  have hshort : l.dropLast ≠ l := by
    intro heq
    have hlength := congrArg List.length heq
    have hpos := List.length_pos_iff.mpr hne
    rw [List.length_dropLast] at hlength
    omega
  intro k hk
  rw [lookup?_set_of_ne_nil hne] at hk ⊢
  by_cases hkl : k = l
  · rw [hkl, if_neg hshort, habove]
  · rw [if_neg hkl] at hk
    have hdirectory := h k hk
    split
    · next heq => rw [hentry (heq ▸ hdirectory)]
    · exact hdirectory

lemma makeDirectory? (h : Closed fs) (hmade : fs.makeDirectory? path = some fs') : Closed fs' := by
  rw [FileSystem.makeDirectory?] at hmade
  split at hmade
  · cases hmade
  · next l _ =>
      split at hmade
      · cases hmade
      · next hnone =>
          split at hmade
          · next habove =>
              cases hmade
              refine h.set ?_ (isDirectoryAt_iff.mp habove) fun _ => rfl
              rintro rfl
              cases hnone
          · cases hmade

lemma makeDirectoriesFrom (fuel : Nat) (h : Closed fs) (path : String) :
    Closed (makeDirectoriesFrom fuel fs path).1 := by
  induction fuel generalizing fs path with
  | zero => exact h
  | succ fuel ih =>
      rw [FileSystem.makeDirectoriesFrom]
      split
      · exact h
      split
      · exact h
      split
      · next hmade => exact h.makeDirectory? hmade
      split
      · exact h
      split
      · exact h
      next above _ =>
        have habove := ih h above
        split
        · next hbelow => rwa [hbelow] at habove
        · next hbelow =>
            rw [hbelow] at habove
            split
            · next hmade => exact habove.makeDirectory? hmade
            · exact habove

lemma makeParent (h : Closed fs) (path : String) : Closed (makeParent fs path).1 := by
  rw [Store.makeParent]
  split
  · exact h
  · next above _ =>
      have hmade := makeDirectoriesFrom (above.length + 1) h above
      split
      · next heq => rwa [← makeDirectories, heq] at hmade
      · next heq => rwa [← makeDirectories, heq] at hmade

lemma put? (h : Closed fs) {content : ByteArray} (hput : fs.put? path content = some fs') :
    Closed fs' := by
  rw [FileSystem.put?] at hput
  split at hput
  · cases hput
  split at hput
  · cases hput
  next l _ =>
    have hroot : fs.lookup? l ≠ some .directory → l ≠ [] := by
      rintro hfree rfl
      exact hfree (lookup?_root fs)
    split at hput
    · cases hput
    · next hfile =>
        cases hput
        exact h.set (hroot (by rw [hfile]; simp)) (h l (by rw [hfile]; simp)) (by rw [hfile]; simp)
    · next hnone =>
        split at hput
        · next habove =>
            cases hput
            exact h.set (hroot (by rw [hnone]; simp)) (isDirectoryAt_iff.mp habove)
              (by rw [hnone]; simp)
        · cases hput

lemma writeMissing (h : Closed fs) (d : Draft) : Closed (d.writeMissing fs) := by
  cases hexists : fs.exists? d.target with
  | true =>
      rw [Draft.writeMissing, write_ifMissing_of_exists hexists]
      exact h
  | false =>
      rw [d.writeMissing_of_absent hexists]
      split
      · exact h.makeParent d.target
      · cases hput : (Store.makeParent fs d.target).1.put? d.target d.content.toUTF8 with
        | none => exact h.makeParent d.target
        | some put => exact (h.makeParent d.target).put? hput

lemma writeDrafts (h : Closed fs) (ds : List Draft) : Closed (writeDrafts fs ds) := by
  induction ds generalizing fs with
  | nil => exact h
  | cons d ds ih => exact ih (h.writeMissing d)

end Closed

/-! ### Paths that go up -/

/-- Steps that do not go up lead further down. -/
lemma prefix_of_walk {steps : List String} (hup : ".." ∉ steps) (h : fs.walk l steps = some k) :
    l <+: k := by
  induction steps generalizing l with
  | nil =>
      cases h
      exact List.prefix_rfl
  | cons s ss ih =>
      rw [List.mem_cons, not_or] at hup
      rw [walk] at h
      split at h
      · have hnext := ih hup.2 h
        rw [if_neg (show ¬ (s == "..") = true by simpa using Ne.symm hup.1)] at hnext
        split at hnext
        · exact hnext
        · exact (List.prefix_append l [s]).trans hnext
      · cases h

/-- Such steps lead to a file through directories that stood all the time. -/
lemma Closed.walk_of_adds (hclosed : Closed fs) (hadds : Adds fs fs')
    (hfile : (fs.fileAt? k).isSome = true) {steps : List String} (hup : ".." ∉ steps)
    (h : fs'.walk l steps = some k) : fs.walk l steps = some k := by
  have hstands : fs.lookup? k ≠ none := lookup?_ne_none_of_file hfile
  induction steps generalizing l with
  | nil => exact h
  | cons s ss ih =>
      have hfront := prefix_of_walk hup h
      rw [walk] at h ⊢
      split at h
      · next hstep =>
          rw [Bool.and_eq_true, isDirectoryAt_iff] at hstep
          have hne : l ≠ k := by
            rintro rfl
            rw [← hadds.fileAt?_eq] at hfile
            exact lookup?_ne_directory_of_file hfile hstep.1
          have hdirectory := hclosed.directory_above hstands hfront hne
          rw [isDirectoryAt_iff.mpr hdirectory, hstep.2]
          exact ih (fun hmem => hup (List.mem_cons_of_mem s hmem)) h
      · cases h

/-- In a closed file system a path makes a detour only if it goes up somewhere. -/
lemma Detour.goes_up (h : Detour fs path l) (hclosed : Closed fs) : ".." ∈ steps path := by
  by_contra hup
  obtain ⟨hpath, hwalk, -⟩ := locate?_eq_some_iff.mp h.found
  have hadds : Adds fs (makeParent fs path).1 := (adds_of_makeParent rfl).1
  rw [origin, hadds.current] at hwalk
  have hlocated : fs.locate? path = some l := by
    refine locate?_eq_some_iff.mpr ⟨hpath, hclosed.walk_of_adds hadds h.file hup hwalk, ?_⟩
    rw [h.plain]
    exact fun hslash => absurd hslash Bool.false_ne_true
  rw [h.lost] at hlocated
  cases hlocated

/-! ### Existing files -/

/-- **Existing files.** A sequence of writes that skip what stands at their paths keeps all files
that stood before, at every time, exactly when no path makes a detour to one of them with another
content. Where directories stand above every entry, only a path that goes up can make one, so all
files are kept by paths with any single dots, repeated slashes and missing directories. -/
theorem existing_kept_iff (fs : FileSystem) (ds : List Draft) :
    ((∀ ds', ds' <+: ds → KeepsFiles fs (writeDrafts fs ds'))
        ↔ ∀ front d, front ++ [d] <+: ds → ∀ l old, fs.fileAt? l = some old →
          Detour (writeDrafts fs front) d.target l → d.content.toUTF8 = old)
      ∧ (Closed fs → (∀ d ∈ ds, ".." ∉ steps d.target) →
        ∀ ds', ds' <+: ds → KeepsFiles fs (writeDrafts fs ds')) := by
  refine ⟨keepsFiles_iff fs ds, fun hclosed hup => ?_⟩
  refine (keepsFiles_iff fs ds).mpr fun front d hfront l old _ hdetour => ?_
  have hmem : d ∈ ds := hfront.subset (List.mem_append_right front List.mem_cons_self)
  exact absurd (hdetour.goes_up (hclosed.writeDrafts front)) (hup d hmem)

/-- A directory with a header that was changed by hand. -/
def customized : FileSystem where
  entries := [(["dub.h"], .file "customised".toUTF8)]

lemma closed_customized : Closed customized := by
  have hempty : Closed {} := by
    intro l hl
    cases l with
    | nil => rfl
    | cons s ss => exact absurd rfl hl
  exact hempty.set (l := ["dub.h"]) (by decide) rfl fun h => by cases h

/-- A header below a missing directory leaves it alone, and so does a second one at its own path. -/
theorem existing_kept_header :
    Closed customized ∧ (writeDrafts customized [⟨".", "dub//./dub.h", "generated"⟩,
      ⟨".", "./dub.h", "generated"⟩]).fileAt? ["dub.h"] = some "customised".toUTF8 := by
  refine ⟨closed_customized, ?_⟩
  exact (existing_kept_iff customized _).2 closed_customized (by decide +kernel) _ List.prefix_rfl
    ["dub.h"] _ rfl

/-- A path through a missing directory and back up overwrites it. -/
theorem existing_overwritten :
    Closed customized
      ∧ (Draft.writeMissing ⟨".", "missing/../dub.h", "generated"⟩ customized).fileAt? ["dub.h"]
        = some "generated".toUTF8
      ∧ "customised".toUTF8 ≠ "generated".toUTF8 := by
  exact ⟨closed_customized, by decide +kernel, by decide +kernel⟩

end LuaBinder.Store
