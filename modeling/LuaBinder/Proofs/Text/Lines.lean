import Mathlib.Tactic
import LuaBinder.Proofs.Text.Decimal
import LuaBinder.Text.Lines

/-!
The lines of a text that grows by whole lines.

* `WholeLines`: a text that is empty or ends with a line feed.
* `lines_append`: behind whole lines, the lines of what follows are added.
* `mem_lines_append_row`: a row written behind whole lines is a line of the text.
* `oneLine_of_mem_lines`: no line ends within a line.
* `Unbroken`: a text without line breaks, see `lines_unbroken`; words have none.
-/

namespace LuaBinder.Text

/-! ### Pieces -/

/-- A cut at a separator separates the pieces of the two sides. -/
lemma pieces_append_cons {α : Type} {isSep : α → Bool} {c : α} (hc : isSep c = true)
    (xs ys : List α) :
    pieces isSep (xs ++ c :: ys) = pieces isSep xs ++ pieces isSep ys := by
  induction xs with
  | nil => simp [pieces, hc]
  | cons x xs ih =>
      rw [List.cons_append, pieces, pieces, ih]
      by_cases hx : isSep x = true
      · rw [if_pos hx, if_pos hx, List.cons_append]
      · rw [if_neg hx, if_neg hx]
        cases hp : pieces isSep xs with
        | nil => exact absurd hp (pieces_ne_nil isSep xs)
        | cons p ps => rfl

/-- Without a separator there is one piece. -/
lemma pieces_of_forall_not {α : Type} {isSep : α → Bool} {xs : List α}
    (h : ∀ x ∈ xs, isSep x = false) : pieces isSep xs = [xs] := by
  induction xs with
  | nil => rfl
  | cons x xs ih =>
      have hx := h x List.mem_cons_self
      rw [pieces, if_neg (by simp [hx]), ih fun y hy => h y (List.mem_cons_of_mem x hy)]

/-- A list without the character that separates is one piece. -/
lemma pieces_of_not_mem {sep : Char} {cs : List Char} (h : sep ∉ cs) : pieces (· == sep) cs = [cs] := by
  refine pieces_of_forall_not fun c hc => ?_
  rw [beq_eq_false_iff_ne]
  rintro rfl
  exact h hc

/-- A separator that stands in neither front cuts two lists at the same place. -/
lemma append_cons_inj {sep : Char} {a b s t : List Char} (ha : sep ∉ a) (hb : sep ∉ b)
    (h : a ++ sep :: s = b ++ sep :: t) : a = b ∧ s = t := by
  have hpieces := congrArg (pieces (· == sep)) h
  rw [pieces_append_cons (by simp), pieces_append_cons (by simp), pieces_of_not_mem ha,
    pieces_of_not_mem hb] at hpieces
  obtain rfl := (List.cons.inj hpieces).1
  exact ⟨rfl, (List.cons.inj (List.append_cancel_left h)).2⟩

/-- Texts that are given by their characters have these characters. -/
lemma map_toList_ofList (parts : List (List Char)) :
    (parts.map String.ofList).map String.toList = parts := by
  have hid : String.toList ∘ String.ofList = id := funext fun _ => String.toList_ofList
  rw [List.map_map, hid, List.map_id]

/-! ### Whole lines -/

/-- The text ends where a line ends. -/
def WholeLines (text : String) : Prop := text = "" ∨ ∃ body, text = body ++ "\n"

lemma wholeLines_row (row : String) : WholeLines (row ++ "\n") := .inr ⟨row, rfl⟩

lemma WholeLines.append {a b : String} (ha : WholeLines a) (hb : WholeLines b) :
    WholeLines (a ++ b) := by
  rcases hb with rfl | ⟨body, rfl⟩
  · rwa [String.append_empty]
  · exact .inr ⟨a ++ body, (String.append_assoc ..).symm⟩

/-- Rows in front of other rows have all lost their line feed. -/
lemma linesOfRows_append (rows : List (List Char)) {more : List (List Char)} (h : more ≠ []) :
    linesOfRows (rows ++ more) = rows.map dropReturn ++ linesOfRows more := by
  induction rows with
  | nil => rfl
  | cons row rows ih =>
      cases hrest : rows ++ more with
      | nil => exact absurd (List.append_eq_nil_iff.mp hrest).2 h
      | cons next rest =>
          rw [List.cons_append, hrest, linesOfRows, ← hrest, ih, List.map_cons, List.cons_append]
          simp

lemma lines_append_newline (body rest : String) :
    lines (body ++ "\n" ++ rest)
      = ((pieces (· == '\n') body.toList).map dropReturn).map String.ofList ++ lines rest := by
  have hchars : (body ++ "\n" ++ rest).toList = body.toList ++ '\n' :: rest.toList := by simp
  rw [lines, hchars, pieces_append_cons (by rfl), linesOfRows_append _ (pieces_ne_nil _ _),
    List.map_append, lines]

/-- The lines of a text that follows whole lines come behind these. -/
lemma lines_append {a : String} (ha : WholeLines a) (b : String) :
    lines (a ++ b) = lines a ++ lines b := by
  rcases ha with rfl | ⟨body, rfl⟩
  · rw [String.empty_append, show lines "" = [] by decide, List.nil_append]
  · have hend := lines_append_newline body ""
    rw [String.append_empty, show lines "" = [] by decide, List.append_nil] at hend
    rw [lines_append_newline, hend]

/-! ### Rows -/

/-- No line ends within the text. -/
def OneLine (text : String) : Prop := '\n' ∉ text.toList

instance (text : String) : Decidable (OneLine text) :=
  inferInstanceAs (Decidable ('\n' ∉ text.toList))

lemma OneLine.append {a b : String} (ha : OneLine a) (hb : OneLine b) : OneLine (a ++ b) := by
  rw [OneLine, String.toList_append, List.mem_append]
  rintro (h | h)
  · exact ha h
  · exact hb h

lemma oneLine_toString_nat (n : Nat) : OneLine (toString n) := by
  intro h
  rw [toList_toString_nat] at h
  have hdigit := Nat.isDigit_of_mem_toDigits (by decide) (by decide) h
  exact absurd hdigit (by decide)

/-- A text that makes one line, and ends with it. -/
structure IsRow (row : String) : Prop where
  oneLine : OneLine row
  noReturn : row.toList.getLast? ≠ some '\r'

lemma lines_row {row : String} (h : IsRow row) : lines (row ++ "\n") = [row] := by
  have heq := lines_append_newline row ""
  rw [String.append_empty, show lines "" = [] by decide, List.append_nil,
    pieces_of_not_mem h.oneLine] at heq
  rw [heq, List.map_singleton, List.map_singleton, dropReturn, if_neg h.noReturn,
    String.ofList_toList]

/-- A row written behind whole lines is a line. -/
lemma mem_lines_append_row {a row : String} (ha : WholeLines a) (h : IsRow row) :
    row ∈ lines (a ++ (row ++ "\n")) := by
  rw [lines_append ha, lines_row h]
  exact List.mem_append_right _ List.mem_cons_self

lemma forall_not_of_mem_pieces {α : Type} {isSep : α → Bool} {xs p : List α}
    (h : p ∈ pieces isSep xs) : ∀ x ∈ p, isSep x = false := by
  induction xs generalizing p with
  | nil =>
      rw [pieces, List.mem_singleton] at h
      simp [h]
  | cons c cs ih =>
      rw [pieces] at h
      split at h
      · rcases List.mem_cons.mp h with rfl | h
        · simp
        · exact ih h
      · next hc =>
          cases hp : pieces isSep cs with
          | nil => exact absurd hp (pieces_ne_nil isSep cs)
          | cons q qs =>
              simp only [hp, List.mem_cons] at h
              rcases h with rfl | h
              · rw [List.forall_mem_cons]
                exact ⟨by simpa using hc, ih (hp ▸ List.mem_cons_self)⟩
              · exact ih (hp ▸ List.mem_cons_of_mem q h)

lemma mem_linesOfRows {rows : List (List Char)} {line : List Char} (h : line ∈ linesOfRows rows) :
    ∃ row ∈ rows, line ⊆ row := by
  match rows with
  | [] => cases h
  | [last] =>
      rw [linesOfRows] at h
      split at h
      · cases h
      · exact ⟨last, List.mem_cons_self, by rw [List.mem_singleton.mp h]; exact fun _ => id⟩
  | row :: next :: rest =>
      rw [linesOfRows] at h
      · rcases List.mem_cons.mp h with rfl | h
        · refine ⟨row, List.mem_cons_self, ?_⟩
          rw [dropReturn]
          split
          · exact List.dropLast_subset row
          · exact fun _ => id
        · obtain ⟨found, hfound, hsub⟩ := mem_linesOfRows h
          exact ⟨found, List.mem_cons_of_mem row hfound, hsub⟩
      · simp

/-- No line ends within a line. -/
lemma oneLine_of_mem_lines {text line : String} (h : line ∈ lines text) : OneLine line := by
  obtain ⟨chars, hchars, rfl⟩ := List.mem_map.mp h
  obtain ⟨row, hrow, hsub⟩ := mem_linesOfRows hchars
  intro hmem
  rw [String.toList_ofList] at hmem
  have hfalse := forall_not_of_mem_pieces hrow '\n' (hsub hmem)
  simp at hfalse

/-! ### Texts without line breaks -/

/-- The text holds neither of the characters that end a line. -/
structure Unbroken (text : String) : Prop where
  noFeed : '\n' ∉ text.toList
  noReturn : '\r' ∉ text.toList

lemma unbroken_iff {text : String} :
    Unbroken text ↔ '\n' ∉ text.toList ∧ '\r' ∉ text.toList :=
  ⟨fun h => ⟨h.noFeed, h.noReturn⟩, fun h => ⟨h.1, h.2⟩⟩

instance (text : String) : Decidable (Unbroken text) := decidable_of_iff' _ unbroken_iff

/-- A text given by its characters, such as a literal, is checked one by one. -/
lemma unbroken_ofList {cs : List Char} (h : (cs.all fun c => c != '\n' && c != '\r') = true) :
    Unbroken (String.ofList cs) := by
  have hall := List.all_eq_true.mp h
  rw [unbroken_iff, String.toList_ofList]
  exact ⟨fun hc => absurd (hall _ hc) (by decide), fun hc => absurd (hall _ hc) (by decide)⟩

lemma unbroken_append {a b : String} : Unbroken (a ++ b) ↔ Unbroken a ∧ Unbroken b := by
  simp only [unbroken_iff, String.toList_append, List.mem_append, not_or]
  tauto

lemma Unbroken.append {a b : String} (ha : Unbroken a) (hb : Unbroken b) : Unbroken (a ++ b) :=
  unbroken_append.mpr ⟨ha, hb⟩

lemma Unbroken.isRow {row : String} (h : Unbroken row) : IsRow row :=
  ⟨h.noFeed, fun hlast => h.noReturn (List.mem_of_getLast? hlast)⟩

lemma unbroken_toString_nat (n : Nat) : Unbroken (toString n) := by
  refine ⟨oneLine_toString_nat n, fun h => ?_⟩
  rw [toList_toString_nat] at h
  have hdigit := Nat.isDigit_of_mem_toDigits (by decide) (by decide) h
  exact absurd hdigit (by decide)

lemma not_mem_intercalate {c : Char} {separator : String} {texts : List String}
    (hseparator : c ∉ separator.toList) (h : ∀ text ∈ texts, c ∉ text.toList) :
    c ∉ (separator.intercalate texts).toList := by
  induction texts with
  | nil => exact List.not_mem_nil
  | cons text texts ih =>
      obtain ⟨htext, hrest⟩ := List.forall_mem_cons.mp h
      cases texts with
      | nil => rwa [String.intercalate_singleton]
      | cons next rest =>
          rw [String.intercalate_cons_cons]
          simp only [String.toList_append, List.mem_append, not_or]
          exact ⟨⟨htext, hseparator⟩, ih hrest⟩

lemma unbroken_intercalate {separator : String} {texts : List String}
    (hseparator : Unbroken separator) (h : ∀ text ∈ texts, Unbroken text) :
    Unbroken (separator.intercalate texts) :=
  ⟨not_mem_intercalate hseparator.noFeed fun text htext => (h text htext).noFeed,
    not_mem_intercalate hseparator.noReturn fun text htext => (h text htext).noReturn⟩

lemma subset_of_mem_pieces {α : Type} {isSep : α → Bool} {xs p : List α} (h : p ∈ pieces isSep xs) :
    p ⊆ xs := by
  induction xs generalizing p with
  | nil =>
      rw [pieces, List.mem_singleton] at h
      rw [h]
      exact List.nil_subset _
  | cons x xs ih =>
      rw [pieces] at h
      split at h
      · rcases List.mem_cons.mp h with rfl | h
        · exact List.nil_subset _
        · exact List.subset_cons_of_subset x (ih h)
      · cases hp : pieces isSep xs with
        | nil => exact absurd hp (pieces_ne_nil isSep xs)
        | cons q qs =>
            rw [hp] at h ih
            rcases List.mem_cons.mp h with rfl | h
            · exact List.cons_subset_cons x (ih List.mem_cons_self)
            · exact List.subset_cons_of_subset x (ih (List.mem_cons_of_mem q h))

/-- The lines of a text without carriage returns hold no line break. -/
lemma unbroken_of_mem_lines {text line : String} (htext : '\r' ∉ text.toList)
    (h : line ∈ lines text) : Unbroken line := by
  refine ⟨oneLine_of_mem_lines h, fun hmem => htext ?_⟩
  obtain ⟨chars, hchars, rfl⟩ := List.mem_map.mp h
  obtain ⟨row, hrow, hsub⟩ := mem_linesOfRows hchars
  rw [String.toList_ofList] at hmem
  exact subset_of_mem_pieces hrow (hsub hmem)

/-- A line break is blank, so no word holds one. -/
lemma unbroken_of_mem_words {text word : String} (h : word ∈ words text) : Unbroken word := by
  obtain ⟨cs, hcs, rfl⟩ := List.mem_map.mp h
  have hvisible := forall_not_of_mem_pieces (List.mem_filter.mp hcs).1
  constructor
  · intro hmem
    rw [String.toList_ofList] at hmem
    exact absurd (hvisible _ hmem) (by decide)
  · intro hmem
    rw [String.toList_ofList] at hmem
    exact absurd (hvisible _ hmem) (by decide)

end LuaBinder.Text
