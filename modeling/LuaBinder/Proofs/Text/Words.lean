import LuaBinder.Proofs.Text.Lines

/-!
The words of a text, for any choice of the characters that separate them.

* `runs`: the maximal runs of characters that are no separators; words are the case of blanks.
* `runs_append_cons`: behind a separator the runs of what follows are added.
* `runs_map`: separators may be changed into other separators.
* `runs_intercalate`, `flatMap_runs`: a text may be cut into words and joined again first, if blanks
  are among the separators; so `runs_collapse`.
* `count_collapse`: the words of a text hold all of it but the blanks.
-/

namespace LuaBinder.Text

/-- The maximal runs of characters that are no separators. -/
def runs (isSep : Char → Bool) (cs : List Char) : List (List Char) :=
  (pieces isSep cs).filter (! ·.isEmpty)

variable {isSep : Char → Bool} {c : Char}

/-! ### Runs and separators -/

/-- Behind a separator the runs of what follows are added. -/
lemma runs_append_cons (hc : isSep c = true) (xs ys : List Char) :
    runs isSep (xs ++ c :: ys) = runs isSep xs ++ runs isSep ys := by
  rw [runs, pieces_append_cons hc, List.filter_append, runs, runs]

/-- Without separators there is one run, if there is anything. -/
lemma runs_of_forall_not {cs : List Char} (h : ∀ c ∈ cs, isSep c = false) :
    runs isSep cs = if cs.isEmpty then [] else [cs] := by
  rw [runs, pieces_of_forall_not h]
  cases cs <;> rfl

/-- Other separators may stand in the places of separators. -/
lemma runs_map {isSep' : Char → Bool} {f : Char → Char} (hsep : ∀ c, isSep' (f c) = isSep c)
    (hkeep : ∀ c, isSep c = false → f c = c) (cs : List Char) :
    runs isSep' (cs.map f) = runs isSep cs := by
  have hpieces : pieces isSep' (cs.map f) = pieces isSep cs := by
    induction cs with
    | nil => rfl
    | cons c cs ih =>
        rw [List.map_cons, pieces, pieces, ih, hsep]
        cases hc : isSep c with
        | true => rfl
        | false => rw [hkeep c hc]
  rw [runs, hpieces, runs]

/-! ### Words that are joined again -/

/-- The runs of a joined text are those of its parts. -/
lemma runs_intercalate (hc : isSep c = true) (parts : List (List Char)) :
    runs isSep ([c].intercalate parts) = parts.flatMap (runs isSep) := by
  induction parts with
  | nil => rfl
  | cons part parts ih =>
      cases parts with
      | nil => rw [List.intercalate_singleton, List.flatMap_singleton]
      | cons next rest =>
          rw [List.intercalate_cons_cons, List.append_assoc, List.singleton_append,
            runs_append_cons hc, ih]
          rfl

/-- A text may be cut at some of the separators first. -/
lemma flatMap_runs {isBreak : Char → Bool} (hbreak : ∀ c, isBreak c = true → isSep c = true)
    (cs : List Char) : (runs isBreak cs).flatMap (runs isSep) = runs isSep cs := by
  have hfront : ∀ front : List Char, (∀ c ∈ front, isBreak c = false) →
      (runs isBreak front).flatMap (runs isSep) = runs isSep front := by
    intro front h
    rw [runs_of_forall_not h]
    cases front with
    | nil => rfl
    | cons c front => exact List.flatMap_singleton ..
  -- by induction on what stands behind a run of characters that break nothing
  suffices h : ∀ cs front : List Char, (∀ c ∈ front, isBreak c = false) →
      (runs isBreak (front ++ cs)).flatMap (runs isSep) = runs isSep (front ++ cs) from
    h cs [] (fun _ hmem => absurd hmem List.not_mem_nil)
  intro cs
  induction cs with
  | nil =>
      intro front h
      rw [List.append_nil, hfront front h]
  | cons c cs ih =>
      intro front h
      cases hc : isBreak c with
      | true =>
          have hrest := ih [] (fun _ hmem => absurd hmem List.not_mem_nil)
          rw [List.nil_append] at hrest
          rw [runs_append_cons hc, List.flatMap_append, hfront front h, hrest,
            runs_append_cons (hbreak c hc)]
      | false =>
          have hlonger : ∀ d ∈ front ++ [c], isBreak d = false := by
            rw [List.forall_mem_append, List.forall_mem_singleton]
            exact ⟨h, hc⟩
          have hshift := ih (front ++ [c]) hlonger
          rwa [List.append_assoc, List.singleton_append] at hshift

lemma toList_collapse (s : String) :
    (collapse s).toList = [' '].intercalate (runs isBlank s.toList) := by
  rw [collapse, String.toList_intercalate, words, map_toList_ofList]
  rfl

/-- Collapsing the blanks of a text does not change its runs, if blanks are separators. -/
lemma runs_collapse (hblank : ∀ c, isBlank c = true → isSep c = true) (s : String) :
    runs isSep (collapse s).toList = runs isSep s.toList := by
  rw [toList_collapse, runs_intercalate (hblank ' ' (by decide)), flatMap_runs hblank]

/-! ### What the words hold -/

/-- The runs hold all characters that are no separators. -/
lemma flatten_runs (cs : List Char) : (runs isSep cs).flatten = cs.filter (! isSep ·) := by
  rw [runs, List.flatten_filter_not_isEmpty]
  induction cs with
  | nil => rfl
  | cons c cs ih =>
      obtain ⟨piece, more, hcut⟩ := List.exists_cons_of_ne_nil (pieces_ne_nil isSep cs)
      rw [hcut] at ih
      rw [pieces, hcut, List.filter_cons, ← ih]
      cases isSep c <;> rfl

lemma count_intercalate_of_ne {d : Char} (h : d ≠ c) (parts : List (List Char)) :
    ([c].intercalate parts).count d = parts.flatten.count d := by
  induction parts with
  | nil => rfl
  | cons part parts ih =>
      cases parts with
      | nil => rw [List.intercalate_singleton, List.flatten_singleton]
      | cons next rest =>
          rw [List.intercalate_cons_cons, List.count_append, List.count_append, ih,
            List.count_singleton, if_neg (by simpa using h.symm), Nat.add_zero, ← List.count_append]
          rfl

/-- Collapsing the blanks of a text leaves every other character where it is. -/
lemma count_collapse {d : Char} (h : isBlank d = false) (s : String) :
    (collapse s).toList.count d = s.toList.count d := by
  have hne : d ≠ ' ' := by
    rintro rfl
    exact absurd h (by decide)
  rw [toList_collapse, count_intercalate_of_ne hne, flatten_runs, List.count_filter (by simp [h])]

end LuaBinder.Text
