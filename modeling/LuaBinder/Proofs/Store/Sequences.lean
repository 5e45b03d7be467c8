import LuaBinder.Proofs.Store.Keeping

/-!
What writes leave, one by one and in sequence.

A write ends in one of three ways. It fails, and at most directories were added; it keeps what
stands at the path, and nothing changes; or it writes, and the file that its path leads to is the
only one that changes.

* `Attempt`: a file to be written under a rule; `Attempt.perform` writes it.
* `adds_of_perform_error`, `eq_of_perform_kept`, `exists_puts_of_perform_written`: the three ways.
* `placedBy`: the files that a sequence of attempts wrote, in order, each with its location.
* `grows_performAll`, `fileAt?_performAll`: what the sequence leaves.
* `writes_exact`: all of these together.
-/

namespace LuaBinder.Store

open FileSystem

variable {fs fs' : FileSystem} {l : Location}

/-! ### One write -/

/-- A file to be written below a base directory under a rule. -/
structure Attempt extends Draft where
  rule : WriteRule

namespace Attempt

variable {a : Attempt}

/-- The file system after the attempt, and what became of it. -/
def perform (a : Attempt) (fs : FileSystem) : FileSystem × Except WriteError WriteOutcome :=
  write fs a.rule a.base a.path a.content

/-- A write that fails has added directories at most. -/
lemma adds_of_perform_error {e : WriteError} (h : a.perform fs = (fs', .error e)) :
    Adds fs fs' := by
  rw [perform, write] at h
  split at h
  · cases h
  split at h
  · next hparent =>
      cases h
      exact (adds_of_makeParent hparent).1
  · next hparent =>
      split at h
      · cases h
      · cases h
        exact (adds_of_makeParent hparent).1

/-- A write that keeps what stands there changes nothing. -/
lemma eq_of_perform_kept (h : a.perform fs = (fs', .ok .kept)) : fs' = fs := by
  rw [perform, write] at h
  split at h
  · cases h
    rfl
  · split at h
    · cases h
    · split at h
      · cases h
      · cases h

/-- A write that succeeds has put the file where its path leads. -/
lemma exists_puts_of_perform_written (h : a.perform fs = (fs', .ok .written)) :
    ∃ l, fs'.locate? a.target = some l ∧ endsWithSlash a.target = false
      ∧ Puts fs l a.content.toUTF8 fs' := by
  obtain ⟨l, hputs, hrewritable⟩ := exists_puts_of_write h
  exact ⟨l, hrewritable.located, hrewritable.plain, hputs⟩

/-- Whatever becomes of a write, directories stay directories and files stay files. -/
lemma grows_perform (a : Attempt) (fs : FileSystem) : Grows fs (a.perform fs).1 := by
  rcases hperform : a.perform fs with ⟨fs', e | outcome⟩
  · exact (adds_of_perform_error hperform).grows
  · cases outcome with
    | written =>
        obtain ⟨l, -, -, hputs⟩ := exists_puts_of_perform_written hperform
        exact hputs.grows
    | kept =>
        rw [eq_of_perform_kept hperform]
        exact Grows.refl fs

end Attempt

/-! ### Sequences -/

/-- A file that was written: its path, the location that the path led to, and what was put there. -/
structure Placed where
  path : String
  location : Location
  content : ByteArray

/-- The file that an attempt writes, if it writes one. -/
def Attempt.placed? (a : Attempt) (fs : FileSystem) : Option Placed :=
  match a.perform fs with
  | (fs', .ok .written) => (fs'.locate? a.target).map (⟨a.target, ·, a.content.toUTF8⟩)
  | _ => none

/-- The file system after a sequence of attempts, which goes on behind one that fails. -/
def performAll (fs : FileSystem) (as : List Attempt) : FileSystem :=
  as.foldl (fun fs a => (a.perform fs).1) fs

/-- The files that a sequence of attempts writes, in order. -/
def placedBy : FileSystem → List Attempt → List Placed
  | _, [] => []
  | fs, a :: as => (a.placed? fs).toList ++ placedBy (a.perform fs).1 as

/-- What was put last at a location. -/
def lastContent? (placed : List Placed) (l : Location) : Option ByteArray :=
  (placed.reverse.find? (·.location == l)).map (·.content)

lemma lastContent?_append (first second : List Placed) (l : Location) :
    lastContent? (first ++ second) l = (lastContent? second l).or (lastContent? first l) := by
  rw [lastContent?, List.reverse_append, List.find?_append, Option.map_or, lastContent?,
    lastContent?]

lemma Attempt.placed?_eq_some {a : Attempt} {p : Placed} (h : a.placed? fs = some p) :
    (a.perform fs).1.locate? p.path = some p.location ∧ endsWithSlash p.path = false := by
  rw [placed?] at h
  split at h
  · next hperform =>
      obtain ⟨l, hl, hplain, -⟩ := exists_puts_of_perform_written hperform
      rw [hl, Option.map_some, Option.some_inj] at h
      subst h
      rw [hperform]
      exact ⟨hl, hplain⟩
  · cases h

/-- An attempt changes the file that it writes, and no other. -/
lemma Attempt.fileAt?_perform (a : Attempt) (fs : FileSystem) (l : Location) :
    (a.perform fs).1.fileAt? l
      = (lastContent? (a.placed? fs).toList l).or (fs.fileAt? l) := by
  rw [placed?]
  rcases hperform : a.perform fs with ⟨fs', e | outcome⟩
  · exact (adds_of_perform_error hperform).fileAt?_eq l
  · cases outcome with
    | kept =>
        rw [eq_of_perform_kept hperform]
        rfl
    | written =>
        obtain ⟨k, hk, -, hputs⟩ := exists_puts_of_perform_written hperform
        dsimp only
        rw [hputs.fileAt?_eq, hk, Option.map_some, Option.toList_some, lastContent?,
          List.reverse_singleton, List.find?_singleton]
        by_cases heq : l = k
        · subst heq
          simp
        · rw [if_neg heq, if_neg (by simpa using Ne.symm heq), Option.map_none, Option.none_or]

lemma grows_performAll (fs : FileSystem) (as : List Attempt) : Grows fs (performAll fs as) := by
  induction as generalizing fs with
  | nil => exact Grows.refl fs
  | cons a as ih => exact (a.grows_perform fs).trans (ih (a.perform fs).1)

/-- The paths of the files that were written go on leading to them. -/
lemma locate?_performAll {as : List Attempt} {p : Placed} (h : p ∈ placedBy fs as) :
    (performAll fs as).locate? p.path = some p.location := by
  induction as generalizing fs with
  | nil => cases h
  | cons a as ih =>
      rw [placedBy, List.mem_append, Option.mem_toList] at h
      rcases h with hfirst | hrest
      · obtain ⟨hl, hplain⟩ := a.placed?_eq_some hfirst
        exact (grows_performAll _ as).locate? hl (.inl hplain)
      · exact ih hrest

/-- A file holds what was put there last, if anything was. -/
lemma fileAt?_performAll (fs : FileSystem) (as : List Attempt) (l : Location) :
    (performAll fs as).fileAt? l = (lastContent? (placedBy fs as) l).or (fs.fileAt? l) := by
  induction as generalizing fs with
  | nil => rfl
  | cons a as ih =>
      have hrest := ih (a.perform fs).1
      rw [a.fileAt?_perform, ← Option.or_assoc, ← lastContent?_append] at hrest
      exact hrest

/-! ### What writes leave -/

/-- **Writes.** A write that fails has added directories at most, so that all files are as they were
and there is no new one. A write that keeps what stands at its path changes nothing. After a write
that succeeds its path leads to a file with the content, and every other file is as it was. So after
any sequence of writes, whatever became of each, the paths of those that succeeded lead where they
led then, and each file holds the content of the last write that succeeded there, or what it held
before if there was none. -/
theorem writes_exact (fs : FileSystem) :
    (∀ a : Attempt, match a.perform fs with
      | (fs', .error _) => Adds fs fs' ∧ ∀ l, fs'.fileAt? l = fs.fileAt? l
      | (fs', .ok .kept) => fs' = fs
      | (fs', .ok .written) => ∃ l, fs'.locate? a.target = some l
          ∧ Puts fs l a.content.toUTF8 fs'
          ∧ ∀ k, fs'.fileAt? k = if k = l then some a.content.toUTF8 else fs.fileAt? k)
      ∧ ∀ as, (∀ p ∈ placedBy fs as, (performAll fs as).locate? p.path = some p.location)
        ∧ ∀ l, (performAll fs as).fileAt? l
          = (lastContent? (placedBy fs as) l).or (fs.fileAt? l) := by
  refine ⟨fun a => ?_, fun as => ⟨fun p => locate?_performAll, fileAt?_performAll fs as⟩⟩
  rcases hperform : a.perform fs with ⟨fs', e | outcome⟩
  · have hadds := Attempt.adds_of_perform_error hperform
    exact ⟨hadds, hadds.fileAt?_eq⟩
  · cases outcome with
    | kept => exact Attempt.eq_of_perform_kept hperform
    | written =>
        obtain ⟨l, hl, -, hputs⟩ := Attempt.exists_puts_of_perform_written hperform
        exact ⟨l, hl, hputs, hputs.fileAt?_eq⟩

/-- Attempts to write below a file, over a header that is kept, and twice to one place. -/
def attemptsBesideHeader : List Attempt :=
  [⟨⟨".", "dub.h/Foo.cpp", "lost"⟩, .always⟩, ⟨⟨".", "dub.h", "generated"⟩, .ifMissing⟩,
    ⟨⟨".", "lib/Foo.cpp", "first"⟩, .always⟩, ⟨⟨".", "lib//./Foo.cpp", "second"⟩, .always⟩]

/-- The later of the two files is found, and the header holds what it held. -/
theorem writes_exact_header :
    (attemptsBesideHeader.map fun a => (a.perform customized).2)
        = [.error (.directory "./dub.h"), .ok .kept, .ok .written, .ok .written]
      ∧ (performAll customized attemptsBesideHeader).fileAt? ["lib", "Foo.cpp"]
        = some "second".toUTF8
      ∧ (performAll customized attemptsBesideHeader).fileAt? ["dub.h"]
        = some "customised".toUTF8 := by
  have hfiles := ((writes_exact customized).2 attemptsBesideHeader).2
  refine ⟨by decide +kernel, (hfiles _).trans ?_, (hfiles _).trans ?_⟩
  · decide +kernel
  · decide +kernel

end LuaBinder.Store
