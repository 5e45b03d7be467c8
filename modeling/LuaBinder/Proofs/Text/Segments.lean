import Mathlib.Data.List.Infix
import Mathlib.Data.List.TakeWhile
import Mathlib.Tactic
import LuaBinder.Text.Segments

/-!
What the last segment of a qualified name holds.

A name is cut behind the last place where a pattern stands, so a character is lost with the front
of the name exactly where the pattern stands behind it.

* `splitLast?_eq_none_iff`: a list is not cut exactly when the pattern stands nowhere in it.
* `Unfollowed`: a character stands in a list without a pattern behind it; `unfollowed_trimChars`:
  blanks at the two ends do not matter to that.
* `mem_afterLast_iff`: the last segment holds the characters without a pattern behind them.
* `lastName_qualified_iff`: a plain name is the last segment of the name that a qualifier makes of
  it, unless it starts with a colon; `lastName_lastName`: a last segment is cut no further.
-/

namespace LuaBinder.Text

/-! ### Places of a pattern -/

lemma afterHead?_eq_none_iff {pattern cs : List Char} :
    afterHead? pattern cs = none ↔ ¬ pattern <+: cs := by
  rw [← Option.not_isSome_iff_eq_none, Option.isSome_iff_exists]
  refine not_congr ⟨fun ⟨rest, h⟩ => ⟨rest, (afterHead?_eq_some_iff.mp h).symm⟩, ?_⟩
  rintro ⟨rest, h⟩
  exact ⟨rest, afterHead?_eq_some_iff.mpr h.symm⟩

/-- A list is not cut exactly when the pattern stands nowhere in it. -/
lemma splitLast?_eq_none_iff {pattern cs : List Char} :
    splitLast? pattern cs = none ↔ ¬ pattern <:+: cs := by
  induction cs with
  | nil =>
      rw [splitLast?, Option.map_eq_none_iff, afterHead?_eq_none_iff, List.prefix_nil,
        List.infix_nil]
  | cons c cs ih =>
      rw [List.infix_cons_iff, not_or, ← ih, splitLast?]
      cases splitLast? pattern cs with
      | some cut => simp
      | none => simp [afterHead?_eq_none_iff]

/-! ### Characters without a pattern behind them -/

/-- The character stands somewhere in the list without the pattern behind it. -/
def Unfollowed (pattern : List Char) (c : Char) (cs : List Char) : Prop :=
  ∃ before after, cs = before ++ c :: after ∧ ¬ pattern <:+: after

variable {pattern cs : List Char} {c d : Char}

lemma unfollowed_cons :
    Unfollowed pattern c (d :: cs) ↔ (d = c ∧ ¬ pattern <:+: cs) ∨ Unfollowed pattern c cs := by
  constructor
  · rintro ⟨before, after, heq, hafter⟩
    cases before with
    | nil =>
        obtain ⟨rfl, rfl⟩ := List.cons.inj heq
        exact .inl ⟨rfl, hafter⟩
    | cons first before => exact .inr ⟨before, after, (List.cons.inj heq).2, hafter⟩
  · rintro (⟨rfl, h⟩ | ⟨before, after, rfl, hafter⟩)
    · exact ⟨[], cs, rfl, h⟩
    · exact ⟨d :: before, after, rfl, hafter⟩

/-- Where the pattern stands nowhere, nothing is followed by it. -/
lemma unfollowed_of_not_infix (h : ¬ pattern <:+: cs) : Unfollowed pattern c cs ↔ c ∈ cs := by
  induction cs with
  | nil => simp [Unfollowed]
  | cons d cs ih =>
      have hcs : ¬ pattern <:+: cs := fun hfound => h (List.infix_cons hfound)
      rw [unfollowed_cons, ih hcs, and_iff_left hcs, List.mem_cons, @eq_comm _ c]

/-- Other characters in front do not matter. -/
lemma unfollowed_append_left {front : List Char} (h : c ∉ front) :
    Unfollowed pattern c (front ++ cs) ↔ Unfollowed pattern c cs := by
  induction front with
  | nil => rfl
  | cons d front ih =>
      rw [List.mem_cons, not_or] at h
      rw [List.cons_append, unfollowed_cons, ih h.2, or_iff_right fun hd => h.1 hd.1.symm]

/-- Neither do other characters at the end, if the pattern holds none of them. -/
lemma unfollowed_append_right {back : List Char} (hc : c ∉ back)
    (hback : ∀ d ∈ pattern, d ∉ back) (hpattern : pattern ≠ []) :
    Unfollowed pattern c (cs ++ back) ↔ Unfollowed pattern c cs := by
  have hfound : ∀ after : List Char, pattern <:+: after ++ back ↔ pattern <:+: after := by
    intro after
    refine ⟨fun h => ?_, fun h => h.trans (List.prefix_append _ _).isInfix⟩
    induction back using List.reverseRecOn with
    | nil => rwa [List.append_nil] at h
    | append_singleton back d ih =>
        rw [← List.append_assoc, List.infix_concat_iff] at h
        rcases h with h | h
        · -- the last character of the pattern would be one of the others
          have hlast := h.getLast hpattern
          rw [List.getLast_append_singleton] at hlast
          exact absurd (List.mem_append_right back (List.mem_singleton.mpr hlast))
            (hback _ (List.getLast_mem hpattern))
        · exact ih (fun hmem => hc (List.mem_append_left _ hmem))
            (fun e he hmem => hback e he (List.mem_append_left _ hmem)) h
  induction cs with
  | nil =>
      refine iff_of_false ?_ (by simp [Unfollowed])
      rintro ⟨before, after, rfl, -⟩
      exact hc (List.mem_append_right _ List.mem_cons_self)
  | cons d cs ih =>
      calc Unfollowed pattern c (d :: cs ++ back)
          ↔ (d = c ∧ ¬ pattern <:+: cs ++ back) ∨ Unfollowed pattern c (cs ++ back) :=
            unfollowed_cons
        _ ↔ (d = c ∧ ¬ pattern <:+: cs) ∨ Unfollowed pattern c cs :=
            or_congr (and_congr_right fun _ => not_congr (hfound cs)) ih
        _ ↔ Unfollowed pattern c (d :: cs) := unfollowed_cons.symm

/-! ### The last segment -/

lemma toList_afterLast (pattern s : String) : (afterLast pattern s).toList
    = ((splitLast? pattern.toList s.toList).map Prod.snd).getD s.toList := by
  rw [afterLast]
  cases splitLast? pattern.toList s.toList with
  | some cut => exact String.toList_ofList
  | none => rfl

/-- What is left behind the last place of a pattern holds the characters without the pattern behind
them. -/
lemma mem_getD_splitLast?_iff (hc : c ∉ pattern) :
    c ∈ ((splitLast? pattern cs).map Prod.snd).getD cs ↔ Unfollowed pattern c cs := by
  induction cs with
  | nil =>
      refine iff_of_false ?_ (by simp [Unfollowed])
      rw [splitLast?]
      cases hhead : afterHead? pattern [] with
      | none => exact List.not_mem_nil
      | some rest =>
          have hnil := afterHead?_eq_some_iff.mp hhead
          have hrest := (List.append_eq_nil_iff.mp hnil.symm).2
          simp [hrest]
  | cons d cs ih =>
      rw [splitLast?]
      cases hsplit : splitLast? pattern cs with
      | some cut =>
          -- the pattern stands further on, so the first character is lost
          have hfound : pattern <:+: cs := by
            by_contra hnot
            rw [splitLast?_eq_none_iff.mpr hnot] at hsplit
            cases hsplit
          rw [hsplit] at ih
          rw [unfollowed_cons, or_iff_right fun h => h.2 hfound]
          exact ih
      | none =>
          have hnot := splitLast?_eq_none_iff.mp hsplit
          rw [unfollowed_cons, unfollowed_of_not_infix hnot, and_iff_left hnot, @eq_comm _ d,
            ← List.mem_cons]
          cases hhead : afterHead? pattern (d :: cs) with
          | none => exact Iff.rfl
          | some rest =>
              rw [afterHead?_eq_some_iff.mp hhead, List.mem_append, or_iff_right hc]
              exact Iff.rfl

/-- So does the last segment of a text. -/
lemma mem_afterLast_iff {pattern s : String} (hc : c ∉ pattern.toList) :
    c ∈ (afterLast pattern s).toList ↔ Unfollowed pattern.toList c s.toList := by
  rw [toList_afterLast, mem_getD_splitLast?_iff hc]

/-! ### Cutting what was put together -/

/-- A list is cut at a pattern that does not stand further on. -/
lemma splitLast?_append {front rest : List Char} (h : ¬ pattern <:+: (pattern ++ rest).tail) :
    splitLast? pattern (front ++ pattern ++ rest) = some (front, rest) := by
  induction front with
  | nil =>
      cases pattern with
      | nil => exact absurd List.nil_infix h
      | cons p ps =>
          have hnone : splitLast? (p :: ps) (ps ++ rest) = none := splitLast?_eq_none_iff.mpr h
          have hhead : afterHead? (p :: ps) (p :: (ps ++ rest)) = some rest :=
            afterHead?_eq_some_iff.mpr rfl
          rw [List.nil_append, List.cons_append, splitLast?, hnone, hhead]
          rfl
  | cons c front ih =>
      rw [List.cons_append, List.cons_append, splitLast?, ih]

/-- Behind the cut the pattern does not stand again. -/
lemma not_infix_of_splitLast? {front rest : List Char} (hpattern : pattern ≠ [])
    (h : splitLast? pattern cs = some (front, rest)) : ¬ pattern <:+: rest := by
  induction cs generalizing front with
  | nil =>
      rw [splitLast?] at h
      obtain ⟨found, hfound, -⟩ := Option.map_eq_some_iff.mp h
      exact absurd (List.append_eq_nil_iff.mp (afterHead?_eq_some_iff.mp hfound).symm).1 hpattern
  | cons c cs ih =>
      rw [splitLast?] at h
      cases hsplit : splitLast? pattern cs with
      | some cut =>
          rw [hsplit] at h
          cases h
          exact ih hsplit
      | none =>
          rw [hsplit] at h
          obtain ⟨found, hfound, heq⟩ := Option.map_eq_some_iff.mp h
          cases heq
          -- what follows a pattern at the head is a part of the tail
          obtain ⟨p, ps, rfl⟩ := List.exists_cons_of_ne_nil hpattern
          have htail := (List.cons.inj (afterHead?_eq_some_iff.mp hfound)).2
          intro hagain
          refine splitLast?_eq_none_iff.mp hsplit (hagain.trans ?_)
          rw [htail]
          exact (List.suffix_append ps rest).isInfix

/-- No place of the pattern is behind the cut. -/
lemma length_le_of_splitLast? {front rest before after : List Char}
    (h : splitLast? pattern cs = some (front, rest)) (hplace : cs = before ++ pattern ++ after) :
    rest.length ≤ after.length := by
  induction cs generalizing front before with
  | nil =>
      have hcut := congrArg List.length (eq_of_splitLast? h)
      simp only [List.length_nil, List.length_append] at hcut
      omega
  | cons c cs ih =>
      rw [splitLast?] at h
      cases hsplit : splitLast? pattern cs with
      | some cut =>
          rw [hsplit] at h
          cases h
          cases before with
          | nil =>
              have hlength := congrArg List.length hplace
              have hcut := congrArg List.length (eq_of_splitLast? hsplit)
              simp only [List.length_cons, List.length_append, List.nil_append] at hlength hcut
              omega
          | cons d before => exact ih hsplit (List.cons.inj hplace).2
      | none =>
          rw [hsplit] at h
          obtain ⟨found, hfound, heq⟩ := Option.map_eq_some_iff.mp h
          cases heq
          cases before with
          | nil =>
              rw [afterHead?_eq_some_iff.mp hfound, List.nil_append] at hplace
              rw [List.append_cancel_left hplace]
          | cons d before =>
              refine absurd ?_ (splitLast?_eq_none_iff.mp hsplit)
              exact ⟨before, after, (List.cons.inj hplace).2.symm⟩

/-- A last segment is the end of the name. -/
lemma lastName_suffix (name : String) : (lastName name).toList <:+ name.toList := by
  rw [lastName, toList_afterLast]
  cases hsplit : splitLast? "::".toList name.toList with
  | none => exact List.suffix_rfl
  | some cut =>
      rw [eq_of_splitLast? hsplit]
      exact List.suffix_append _ _

lemma lastName_eq_self {name : String} (h : ¬ "::".toList <:+: name.toList) :
    lastName name = name := by
  rw [lastName, afterLast, splitLast?_eq_none_iff.mpr h]

/-- A plain name is the last segment of what a qualifier makes of it, unless it starts with a
colon. -/
lemma lastName_qualified_iff {name : String} (h : ¬ "::".toList <:+: name.toList)
    (qualifier : String) :
    lastName (qualifier ++ "::" ++ name) = name ↔ name.toList.head? ≠ some ':' := by
  have hchars : (qualifier ++ "::" ++ name).toList
      = qualifier.toList ++ "::".toList ++ name.toList := by
    rw [String.toList_append, String.toList_append]
  constructor
  · intro heq hhead
    obtain ⟨rest, hrest⟩ := List.head?_eq_some_iff.mp hhead
    have hshift : (qualifier ++ "::" ++ name).toList
        = (qualifier.toList ++ [':']) ++ "::".toList ++ rest := by
      rw [hchars, hrest]
      simp
    have hafter : ¬ "::".toList <:+: ("::".toList ++ rest).tail := by
      rw [hrest] at h
      exact h
    rw [lastName, afterLast, hshift, splitLast?_append hafter] at heq
    rw [← heq, String.toList_ofList] at hrest
    exact absurd (congrArg List.length hrest) (by simp)
  · intro hhead
    have hafter : ¬ "::".toList <:+: ("::".toList ++ name.toList).tail := by
      show ¬ [':', ':'] <:+: ':' :: name.toList
      rw [List.infix_cons_iff, not_or]
      refine ⟨fun hprefix => hhead ?_, h⟩
      obtain ⟨rest, hrest⟩ := (List.cons_prefix_cons.mp hprefix).2
      rw [← hrest]
      rfl
    rw [lastName, afterLast, hchars, splitLast?_append hafter]
    exact String.ofList_toList

/-- A last segment is cut no further. -/
lemma lastName_lastName (name : String) : lastName (lastName name) = lastName name := by
  refine lastName_eq_self ?_
  rw [lastName, toList_afterLast]
  cases hsplit : splitLast? "::".toList name.toList with
  | none => exact splitLast?_eq_none_iff.mp hsplit
  | some cut => exact not_infix_of_splitLast? (by decide) hsplit

/-! ### Blanks at the ends -/

/-- Trimming takes blanks from the two ends and nothing else. -/
lemma exists_blanks_trimChars (cs : List Char) : ∃ front back, cs = front ++ trimChars cs ++ back
    ∧ (∀ d ∈ front, isBlank d = true) ∧ ∀ d ∈ back, isBlank d = true := by
  set inner := cs.dropWhile isBlank with hinner
  have hback := List.takeWhile_append_dropWhile (p := isBlank) (l := inner.reverse)
  have hreverse : trimChars cs ++ (inner.reverse.takeWhile isBlank).reverse = inner := by
    rw [trimChars, ← hinner, ← List.reverse_append, hback, List.reverse_reverse]
  refine ⟨cs.takeWhile isBlank, (inner.reverse.takeWhile isBlank).reverse, ?_,
    fun d hd => List.mem_takeWhile_imp hd,
    fun d hd => List.mem_takeWhile_imp (List.mem_reverse.mp hd)⟩
  rw [List.append_assoc, hreverse, hinner, List.takeWhile_append_dropWhile]

/-- Blanks at the ends do not matter to characters and patterns without blanks. -/
lemma unfollowed_trimChars (hc : isBlank c = false) (hpattern : pattern ≠ [])
    (hblank : ∀ d ∈ pattern, isBlank d = false) :
    Unfollowed pattern c (trimChars cs) ↔ Unfollowed pattern c cs := by
  obtain ⟨front, back, heq, hfront, hback⟩ := exists_blanks_trimChars cs
  have hne : ∀ {d : Char} {blanks : List Char}, isBlank d = false →
      (∀ e ∈ blanks, isBlank e = true) → d ∉ blanks := by
    intro d blanks hd hblanks hmem
    rw [hblanks d hmem] at hd
    cases hd
  conv_rhs => rw [heq]
  rw [unfollowed_append_right (hne hc hback) (fun d hd => hne (hblank d hd) hback) hpattern,
    unfollowed_append_left (hne hc hfront)]

end LuaBinder.Text
