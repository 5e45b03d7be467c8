import LuaBinder.Proofs.Text.Lines
import LuaBinder.Proofs.Text.Occurrences

/-!
Places in a text, counted in bytes, and texts between two marks.

* `eq_of_byteCount_eq`: the number of bytes in front of a place determines the place.
* `infix_marked_iff`: a text stands between two marks exactly when it is an inner piece of the list
  cut at the marks.
-/

namespace LuaBinder.Text

/-! ### Bytes -/

lemma byteCount_eq_sum (cs : List Char) : byteCount cs = (cs.map Char.utf8Size).sum := by
  rw [byteCount, List.sum_eq_foldl, List.foldl_map]

lemma byteCount_append (cs ds : List Char) :
    byteCount (cs ++ ds) = byteCount cs + byteCount ds := by
  rw [byteCount_eq_sum, byteCount_eq_sum, byteCount_eq_sum, List.map_append, List.sum_append]

/-- Every character takes a byte. -/
lemma eq_nil_of_byteCount_eq_zero {cs : List Char} (h : byteCount cs = 0) : cs = [] := by
  cases cs with
  | nil => rfl
  | cons c cs =>
      have hpos := c.utf8Size_pos
      rw [byteCount_eq_sum, List.map_cons, List.sum_cons] at h
      omega

/-- Two beginnings of a list with as many bytes are the same. -/
lemma eq_of_byteCount_eq {cs a b : List Char} (ha : a <+: cs) (hb : b <+: cs)
    (h : byteCount a = byteCount b) : a = b := by
  have hgrow : ∀ {short long : List Char}, short <+: long → byteCount short = byteCount long →
      short = long := by
    rintro short long ⟨more, rfl⟩ hcount
    rw [byteCount_append] at hcount
    have hmore : more = [] := eq_nil_of_byteCount_eq_zero (by omega)
    rw [hmore, List.append_nil]
  rcases List.prefix_or_prefix_of_prefix ha hb with hab | hba
  · exact hgrow hab h
  · exact (hgrow hba h.symm).symm

/-! ### Marks -/

variable {mark : Char} {v cs : List Char}

/-- A text ends at the first mark exactly when it is the first of several pieces. -/
lemma prefix_marked_iff (hv : mark ∉ v) :
    v ++ [mark] <+: cs ↔ ∃ next rest, pieces (· == mark) cs = v :: next :: rest := by
  constructor
  · rintro ⟨tail, rfl⟩
    obtain ⟨next, rest, htail⟩ := List.exists_cons_of_ne_nil (pieces_ne_nil (· == mark) tail)
    refine ⟨next, rest, ?_⟩
    rw [List.append_assoc, List.singleton_append, pieces_append_cons (by simp),
      pieces_of_not_mem hv, htail, List.singleton_append]
  · rintro ⟨next, rest, hpieces⟩
    induction cs generalizing v with
    | nil => simp [pieces] at hpieces
    | cons c cs ih =>
        rw [pieces] at hpieces
        split at hpieces
        · next hc =>
            rw [beq_iff_eq] at hc
            obtain ⟨rfl, -⟩ := List.cons.inj hpieces
            exact ⟨cs, by rw [hc]; rfl⟩
        · cases hcs : pieces (· == mark) cs with
          | nil => exact absurd hcs (pieces_ne_nil _ cs)
          | cons p ps =>
              rw [hcs] at hpieces
              obtain ⟨rfl, rfl⟩ := List.cons.inj hpieces
              rw [List.cons_append, List.cons_prefix_cons]
              exact ⟨rfl, ih (List.not_mem_of_not_mem_cons hv) hcs⟩

/-- A text stands between two marks exactly when it is an inner piece. -/
lemma infix_marked_iff (hv : mark ∉ v) :
    mark :: v ++ [mark] <:+: cs ↔ v ∈ (pieces (· == mark) cs).tail.dropLast := by
  induction cs with
  | nil => simp [pieces]
  | cons c cs ih =>
      rw [List.infix_cons_iff, ih, List.cons_append, List.cons_prefix_cons, prefix_marked_iff hv,
        pieces]
      obtain ⟨p, ps, hcs⟩ := List.exists_cons_of_ne_nil (pieces_ne_nil (· == mark) cs)
      by_cases hc : c = mark
      · rw [if_pos (beq_iff_eq.mpr hc), hcs]
        cases ps with
        | nil => simp
        | cons next rest => simp [hc, eq_comm]
      · rw [if_neg (by simpa using hc), hcs]
        simp [Ne.symm hc]

end LuaBinder.Text
