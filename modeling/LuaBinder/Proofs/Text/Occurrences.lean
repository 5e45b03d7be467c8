import LuaBinder.Proofs.Text.Segments

/-!
The first place of a pattern in a text.

* `splitFirst?_eq_some_iff`: a list is cut at a place of the pattern exactly when no place of the
  pattern ends further in front.
* `occurs_eq_false_iff`: whether a pattern stands in a text.
* `infix_append_cons_iff`: a pattern does not reach over a character that it does not hold.
-/

namespace LuaBinder.Text

variable {pattern cs before rest : List Char}

lemma splitFirst?_eq_none_iff : splitFirst? pattern cs = none ↔ ¬ pattern <:+: cs := by
  induction cs with
  | nil =>
      rw [splitFirst?, Option.map_eq_none_iff, afterHead?_eq_none_iff, List.prefix_nil,
        List.infix_nil]
  | cons c cs ih =>
      rw [List.infix_cons_iff, not_or, ← ih, ← afterHead?_eq_none_iff, splitFirst?]
      cases afterHead? pattern (c :: cs) with
      | some tail => simp
      | none => simp

lemma occurs_eq_false_iff {p s : String} : occurs p s = false ↔ ¬ p.toList <:+: s.toList := by
  rw [occurs, Option.isSome_eq_false_iff, Option.isNone_iff_eq_none, splitFirst?_eq_none_iff]

/-- A pattern at the head of a list ends in front of the end of any other place. -/
lemma prefix_append_dropLast {c : Char} (h : pattern <+: c :: before ++ pattern ++ rest) :
    pattern <+: c :: before ++ pattern.dropLast := by
  have hdrop : c :: before ++ pattern.dropLast <+: c :: before ++ pattern ++ rest := by
    rw [List.append_assoc, List.prefix_append_right_inj]
    exact (List.dropLast_prefix pattern).trans (List.prefix_append _ _)
  refine List.prefix_of_prefix_length_le h hdrop ?_
  rw [List.length_append, List.length_cons, List.length_dropLast]
  omega

/-- A list is cut where the pattern stands and no other place of it ends further in front. -/
lemma splitFirst?_eq_some_iff (hne : pattern ≠ []) :
    splitFirst? pattern cs = some (before, rest)
      ↔ cs = before ++ pattern ++ rest ∧ ¬ pattern <:+: before ++ pattern.dropLast := by
  induction cs generalizing before with
  | nil =>
      have hnone : splitFirst? pattern [] = none := by simpa [splitFirst?_eq_none_iff] using hne
      simp [hnone, hne]
  | cons c cs ih =>
      rw [splitFirst?]
      cases hhead : afterHead? pattern (c :: cs) with
      | some tail =>
          have hcs := afterHead?_eq_some_iff.mp hhead
          have hprefix : pattern <+: c :: cs := ⟨tail, hcs.symm⟩
          simp only [Option.some.injEq, Prod.mk.injEq]
          constructor
          · rintro ⟨rfl, rfl⟩
            refine ⟨hcs, fun h => ?_⟩
            have hle := h.length_le
            have hpos := List.length_pos_iff.mpr hne
            rw [List.nil_append, List.length_dropLast] at hle
            omega
          · rintro ⟨heq, hfirst⟩
            cases before with
            | nil => exact ⟨rfl, List.append_cancel_left (hcs.symm.trans heq)⟩
            | cons b before =>
                rw [heq] at hprefix
                exact absurd (prefix_append_dropLast hprefix).isInfix hfirst
      | none =>
          have hprefix := afterHead?_eq_none_iff.mp hhead
          simp only [Option.map_eq_some_iff, Prod.exists, Prod.mk.injEq]
          constructor
          · rintro ⟨front, tail, hsplit, rfl, rfl⟩
            obtain ⟨rfl, hfirst⟩ := ih.mp hsplit
            refine ⟨rfl, fun h => ?_⟩
            rw [List.cons_append, List.infix_cons_iff] at h
            refine h.elim (fun hhere => hprefix ?_) hfirst
            refine hhere.trans ?_
            rw [List.cons_prefix_cons, List.append_assoc, List.prefix_append_right_inj]
            exact ⟨rfl, (List.dropLast_prefix pattern).trans (List.prefix_append _ _)⟩
          · rintro ⟨heq, hfirst⟩
            cases before with
            | nil => exact absurd ⟨rest, heq.symm⟩ hprefix
            | cons b front =>
                obtain ⟨rfl, hcs⟩ := List.cons.inj heq
                exact ⟨front, rest, ih.mpr ⟨hcs, fun h => hfirst (List.infix_cons h)⟩, rfl, rfl⟩

/-! ### Patterns beside other characters -/

variable {c : Char}

lemma prefix_append_cons_iff (hc : c ∉ pattern) :
    pattern <+: before ++ c :: rest ↔ pattern <+: before := by
  induction before generalizing pattern with
  | nil =>
      cases pattern with
      | nil => simp
      | cons p ps =>
          rw [List.mem_cons, not_or] at hc
          simp [Ne.symm hc.1]
  | cons b before ih =>
      cases pattern with
      | nil => simp
      | cons p ps =>
          rw [List.mem_cons, not_or] at hc
          rw [List.cons_append, List.cons_prefix_cons, List.cons_prefix_cons, ih hc.2]

/-- A pattern stands on one side of a character that it does not hold. -/
lemma infix_append_cons_iff (hc : c ∉ pattern) (hne : pattern ≠ []) :
    pattern <:+: before ++ c :: rest ↔ pattern <:+: before ∨ pattern <:+: rest := by
  induction before with
  | nil =>
      have hhead : ¬ pattern <+: c :: rest := fun h => by
        rw [← List.nil_append (c :: rest), prefix_append_cons_iff hc, List.prefix_nil] at h
        exact hne h
      rw [List.nil_append, List.infix_cons_iff, or_iff_right hhead, List.infix_nil,
        or_iff_right hne]
  | cons b before ih =>
      rw [List.cons_append, List.infix_cons_iff, List.infix_cons_iff, ih, ← List.cons_append,
        prefix_append_cons_iff hc, or_assoc]

end LuaBinder.Text
