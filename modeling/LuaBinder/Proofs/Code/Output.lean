import LuaBinder.Code.Builder
import LuaBinder.Proofs.Text.Lines

/-!
What a builder writes, line by line.

* `Builder.Extends`: one builder has written whole lines behind what another one wrote.
* `Builder.extends_run`: steps write whole lines and take nothing back.
* `Builder.level_run`: steps without indentation leave the level as it is.
* `mem_lines_render`: what a step at the outermost level shows is a line of the rendered text.
-/

namespace LuaBinder.Code

open Text

namespace Builder

variable {a b c : Builder}

/-! ### Growth -/

/-- The later builder has written whole lines behind the text of the earlier one. -/
def Extends (earlier later : Builder) : Prop :=
  ∃ written, WholeLines written ∧ later.text = earlier.text ++ written

lemma Extends.refl (b : Builder) : b.Extends b :=
  ⟨"", .inl rfl, by rw [String.append_empty]⟩

lemma Extends.trans (hab : a.Extends b) (hbc : b.Extends c) : a.Extends c := by
  obtain ⟨s, hs, hb⟩ := hab
  obtain ⟨t, ht, hc⟩ := hbc
  exact ⟨s ++ t, hs.append ht, by rw [hc, hb, String.append_assoc]⟩

lemma Extends.wholeLines (h : a.Extends b) (ha : WholeLines a.text) : WholeLines b.text := by
  obtain ⟨s, hs, hb⟩ := h
  rw [hb]
  exact ha.append hs

/-- What was a line stays one. -/
lemma Extends.mem_lines (h : a.Extends b) (ha : WholeLines a.text) {row : String}
    (hrow : row ∈ Text.lines a.text) : row ∈ Text.lines b.text := by
  obtain ⟨s, -, hb⟩ := h
  rw [hb, lines_append ha]
  exact List.mem_append_left _ hrow

lemma extends_line (b : Builder) (text : String) : b.Extends (b.line text) := by
  refine ⟨b.margin ++ text ++ "\n", wholeLines_row _, ?_⟩
  simp only [line, String.append_assoc]

lemma extends_blank (b : Builder) : b.Extends b.blank :=
  ⟨"\n", .inr ⟨"", rfl⟩, rfl⟩

lemma extends_row (b : Builder) (text : String) : b.Extends (b.row text) := by
  rw [row]
  split
  · exact b.extends_blank
  · exact b.extends_line text

/-- Writing the elements of a list one by one extends the text if writing each of them does. -/
lemma extends_foldl {write : Builder → String → Builder}
    (h : ∀ (b : Builder) (text : String), b.Extends (write b text)) (texts : List String)
    (b : Builder) :
    b.Extends (texts.foldl write b) := by
  induction texts generalizing b with
  | nil => exact .refl b
  | cons text texts ih => exact (h b text).trans (ih (write b text))

lemma extends_lines (b : Builder) (text : String) : b.Extends (b.lines text) :=
  extends_foldl extends_row (Text.lines text) b

lemma extends_comment (b : Builder) (rows : List String) : b.Extends (b.comment rows) := by
  match rows with
  | [] => exact .refl b
  | [single] => exact b.extends_line _
  | first :: second :: rest =>
      have hrows := extends_foldl (fun (b : Builder) row => b.extends_line (" * " ++ row))
        (second :: rest) (b.line ("/** " ++ first))
      exact ((b.extends_line _).trans hrows).trans (extends_line _ _)

mutual

/-- A step writes whole lines. -/
lemma extends_step (b : Builder) (s : Step) : b.Extends (b.step s) := by
  cases s with
  | line text => rw [step]; exact b.extends_line text
  | lines text => rw [step]; exact b.extends_lines text
  | blank => rw [step]; exact b.extends_blank
  | comment rows => rw [step]; exact b.extends_comment rows
  | indent => rw [step]; exact .refl b
  | dedent => rw [step]; exact .refl b
  | block header close steps =>
      rw [step]
      have hhead : b.Extends (b.line header).indent := b.extends_line header
      have hbody := extends_run (b.line header).indent steps
      exact (hhead.trans hbody).trans (extends_line ((b.line header).indent.run steps).dedent close)

/-- Steps write whole lines and take nothing back. -/
lemma extends_run (b : Builder) (steps : List Step) : b.Extends (b.run steps) := by
  cases steps with
  | nil => rw [run]; exact .refl b
  | cons s ss =>
      rw [run]
      exact (extends_step b s).trans (extends_run (b.step s) ss)

end

/-! ### The level -/

mutual

/-- The step does not change the level, and neither do the steps inside of it. -/
def flat : Step → Bool
  | .indent => false
  | .dedent => false
  | .block _ _ steps => flatAll steps
  | _ => true

/-- None of the steps changes the level. -/
def flatAll : List Step → Bool
  | [] => true
  | s :: ss => flat s && flatAll ss

end

lemma flatAll_iff {steps : List Step} : flatAll steps = true ↔ ∀ s ∈ steps, flat s = true := by
  induction steps with
  | nil => simp [flatAll]
  | cons s ss ih => rw [flatAll, Bool.and_eq_true, ih, List.forall_mem_cons]

lemma flatAll_append {steps more : List Step} (h : flatAll steps = true)
    (h' : flatAll more = true) : flatAll (steps ++ more) = true := by
  rw [flatAll_iff] at *
  exact List.forall_mem_append.mpr ⟨h, h'⟩

lemma level_foldl {write : Builder → String → Builder}
    (h : ∀ (b : Builder) (text : String), (write b text).level = b.level) (texts : List String)
    (b : Builder) :
    (texts.foldl write b).level = b.level := by
  induction texts generalizing b with
  | nil => rfl
  | cons text texts ih => rw [List.foldl_cons, ih, h]

lemma level_row (b : Builder) (text : String) : (b.row text).level = b.level := by
  rw [row]
  split <;> rfl

lemma level_comment (b : Builder) (rows : List String) : (b.comment rows).level = b.level := by
  match rows with
  | [] => rfl
  | [single] => rfl
  | first :: second :: rest =>
      exact level_foldl (fun (b : Builder) row => (rfl : (b.line (" * " ++ row)).level = b.level))
        (second :: rest) (b.line ("/** " ++ first))

mutual

lemma level_step (b : Builder) (s : Step) (h : flat s = true) : (b.step s).level = b.level := by
  cases s with
  | line text => rw [step]; rfl
  | lines text => rw [step]; exact level_foldl level_row (Text.lines text) b
  | blank => rw [step]; rfl
  | comment rows => rw [step]; exact b.level_comment rows
  | indent => cases h
  | dedent => cases h
  | block header close steps =>
      have hbody := level_run (b.line header).indent steps h
      have hhead : (b.line header).indent.level = b.level + 1 := rfl
      rw [step]
      show ((b.line header).indent.run steps).level - 1 = b.level
      rw [hbody, hhead, Nat.add_sub_cancel]

/-- Steps without indentation leave the level as it is. -/
lemma level_run (b : Builder) (steps : List Step) (h : flatAll steps = true) :
    (b.run steps).level = b.level := by
  cases steps with
  | nil => rw [run]
  | cons s ss =>
      rw [flatAll, Bool.and_eq_true] at h
      rw [run, level_run (b.step s) ss h.2, level_step b s h.1]

end

lemma run_append (b : Builder) (steps more : List Step) :
    b.run (steps ++ more) = (b.run steps).run more := by
  induction steps generalizing b with
  | nil => rfl
  | cons s ss ih => rw [List.cons_append, run, ih, run]

/-! ### Lines at the outermost level -/

lemma margin_of_level_zero (h : b.level = 0) : b.margin = "" := by
  rw [margin, h]
  rfl

lemma line_of_level_zero (h : b.level = 0) (text : String) :
    (b.line text).text = b.text ++ (text ++ "\n") := by
  rw [line, margin_of_level_zero h]
  simp [String.append_assoc]

lemma row_of_level_zero (h : b.level = 0) (text : String) :
    (b.row text).text = b.text ++ (text ++ "\n") := by
  rw [row]
  split
  · next hempty =>
      have hnil : text = "" := by simpa using hempty
      rw [hnil]
      rfl
  · exact line_of_level_zero h text

end Builder

/-- The step writes a row as it stands. -/
def Step.Shows (row : String) : Step → Prop
  | .line text => text = row
  | .lines text => row ∈ Text.lines text
  | .block header _ _ => header = row
  | _ => False

namespace Builder

variable {b : Builder} {row : String}

lemma mem_lines_line (hb : WholeLines b.text) (hlevel : b.level = 0) (hrow : IsRow row) :
    row ∈ Text.lines (b.line row).text := by
  rw [line_of_level_zero hlevel]
  exact mem_lines_append_row hb hrow

/-- Every row of a longer text is written. -/
lemma mem_lines_foldl_row (hb : WholeLines b.text) (hlevel : b.level = 0) (hrow : IsRow row)
    {rows : List String} (h : row ∈ rows) : row ∈ Text.lines (rows.foldl Builder.row b).text := by
  induction rows generalizing b with
  | nil => cases h
  | cons first rest ih =>
      have hwhole := (b.extends_row first).wholeLines hb
      rw [List.foldl_cons]
      rcases List.mem_cons.mp h with rfl | h
      · refine (extends_foldl extends_row rest (b.row row)).mem_lines hwhole ?_
        rw [row_of_level_zero hlevel]
        exact mem_lines_append_row hb hrow
      · exact ih hwhole ((b.level_row first).trans hlevel) h

/-- What a step shows at the outermost level is a line. -/
lemma mem_lines_step (hb : WholeLines b.text) (hlevel : b.level = 0) (hrow : IsRow row) {s : Step}
    (h : s.Shows row) : row ∈ Text.lines (b.step s).text := by
  cases s with
  | line text =>
      cases h
      rw [step]
      exact mem_lines_line hb hlevel hrow
  | lines text =>
      rw [step]
      exact mem_lines_foldl_row hb hlevel hrow h
  | block header close steps =>
      cases h
      rw [step]
      have hhead : row ∈ Text.lines (b.line row).indent.text := mem_lines_line hb hlevel hrow
      have hwhole : WholeLines (b.line row).indent.text := (b.extends_line row).wholeLines hb
      have hbody := extends_run (b.line row).indent steps
      exact (hbody.trans (extends_line ((b.line row).indent.run steps).dedent close)).mem_lines
        hwhole hhead
  | blank => cases h
  | comment rows => cases h
  | indent => cases h
  | dedent => cases h

end Builder

/-- What a step shows is a line of the text, if no step in front of it changes the level. -/
theorem mem_lines_render {front back : List Step} {s : Step} {row : String} (hrow : IsRow row)
    (hfront : Builder.flatAll front = true) (hshows : s.Shows row) :
    row ∈ Text.lines (render (front ++ s :: back)) := by
  set b := Builder.run ({ style := .spaces } : Builder) front with hb
  have hwhole : WholeLines b.text := (Builder.extends_run _ front).wholeLines (.inl rfl)
  have hlevel : b.level = 0 := Builder.level_run _ front hfront
  have hrest := Builder.extends_run (b.step s) back
  rw [render, Builder.run_append, ← hb, Builder.run]
  exact hrest.mem_lines ((b.extends_step s).wholeLines hwhole)
    (Builder.mem_lines_step hwhole hlevel hrow hshows)

/-- So is what any of the steps shows that keep the level. -/
lemma mem_lines_render_of_mem {front back : List Step} {s : Step} {row : String} (hrow : IsRow row)
    (hfront : Builder.flatAll front = true) (hs : s ∈ front) (hshows : s.Shows row) :
    row ∈ Text.lines (render (front ++ back)) := by
  obtain ⟨before, after, rfl⟩ := List.append_of_mem hs
  have hbefore : Builder.flatAll before = true := by
    rw [Builder.flatAll_iff] at hfront ⊢
    exact fun t ht => hfront t (List.mem_append_left _ ht)
  rw [List.append_assoc, List.cons_append]
  exact mem_lines_render hrow hbefore hshows

end LuaBinder.Code
