import LuaBinder.Proofs.Code.Rows

/-!
Code that is written out first and then written line by line into other code.

* `Step.Filled`: no line of code that a step writes is empty; blank lines have a step of their own.
* `renderIn`: the text of steps in a fresh builder of some indent style.
* `CodeRow.moved`: a row further in; an empty row stays where it is.
* `rowsAll_add`: steps that do not come out of where they started write, further in, their rows
  moved as far.
* `run_eq_lines_renderIn`: so it is the same whether a builder takes such steps or the lines of
  their text.
-/

namespace LuaBinder.Code

open Text

/-! ### Filled steps -/

mutual

/-- No line of code of the step is empty. The text that is written line by line may hold empty
lines, and a comment puts its marks around every row. -/
def Step.Filled : Step → Prop
  | .line text => text ≠ ""
  | .block header close steps => header ≠ "" ∧ close ≠ "" ∧ FilledAll steps
  | _ => True

/-- So with all steps. -/
def FilledAll : List Step → Prop
  | [] => True
  | s :: ss => s.Filled ∧ FilledAll ss

end

/-- The text of steps in a fresh builder. -/
def renderIn (style : IndentStyle) (steps : List Step) : String :=
  (Builder.run ({ style := style } : Builder) steps).text

lemma renderIn_eq_textOf (style : IndentStyle) (steps : List Step) :
    renderIn style steps = textOf style (rowsAll 0 steps) := by
  rw [renderIn, text_run, String.empty_append]

lemma ne_empty_of_mem_commentRows {rows : List String} :
    ∀ row ∈ commentRows rows, row ≠ "" := by
  match rows with
  | [] => exact fun row hrow => absurd hrow List.not_mem_nil
  | [single] =>
      intro row hrow
      rw [List.mem_singleton.mp hrow]
      simp
  | first :: second :: rest =>
      intro row hrow
      rcases List.mem_append.mp hrow with hrow | hrow
      · rcases List.mem_cons.mp hrow with rfl | hrow
        · simp
        · obtain ⟨text, -, rfl⟩ := List.mem_map.mp hrow
          simp
      · rw [List.mem_singleton.mp hrow]
        simp

/-! ### Rows further in -/

/-- The row, further in by some levels. An empty row has no indentation to grow. -/
def CodeRow.moved (base : Nat) (r : CodeRow) : CodeRow :=
  { r with level := if r.text.isEmpty then r.level else base + r.level }

lemma moved_of_ne_empty {text : String} (h : text ≠ "") (base level : Nat) :
    (⟨level, text⟩ : CodeRow).moved base = ⟨base + level, text⟩ := by
  rw [CodeRow.moved, if_neg (by simpa using h)]

lemma moved_ofLine (base level : Nat) (row : String) :
    (CodeRow.ofLine level row).moved base = .ofLine (base + level) row := by
  simp only [CodeRow.moved, CodeRow.ofLine]
  split <;> rfl

mutual

lemma rows_add (base level : Nat) {depth next : Nat} {s : Step}
    (hdepth : s.depthAfter? depth = some next) (hfilled : s.Filled) :
    s.rows (base + (level + depth)) = (s.rows (level + depth)).map (CodeRow.moved base) := by
  cases s with
  | line text => rw [Step.rows, Step.rows, List.map_singleton, moved_of_ne_empty hfilled]
  | lines text =>
      rw [Step.rows, Step.rows, List.map_map]
      exact List.map_congr_left fun row _ => (moved_ofLine base _ row).symm
  | blank => rfl
  | comment rows =>
      rw [Step.rows, Step.rows, List.map_map]
      exact List.map_congr_left fun row hrow =>
        (moved_of_ne_empty (ne_empty_of_mem_commentRows row hrow) base _).symm
  | indent => rfl
  | dedent => rfl
  | block header close steps =>
      rw [Step.depthAfter?] at hdepth
      split at hdepth
      · next hsteps =>
          obtain ⟨hheader, hclose, hbody⟩ := hfilled
          -- The body starts afresh: it leads from depth zero back to depth zero.
          have hrows := rowsAll_add base (level + depth + 1) hsteps hbody
          have houter := (inside_of_mem_rowsAll (base + (level + depth) + 1) hsteps).1
          have hinner := (inside_of_mem_rowsAll (level + depth + 1) hsteps).1
          rw [Nat.add_zero] at hrows houter hinner
          rw [← Nat.add_assoc base] at hrows
          rw [Step.rows, Step.rows, houter, hinner, Nat.add_sub_cancel, Nat.add_sub_cancel, hrows,
            List.map_append, List.map_cons, List.map_singleton, moved_of_ne_empty hheader,
            moved_of_ne_empty hclose]
      · cases hdepth

/-- Further in, steps that do not come out of where they started write their rows further in. -/
lemma rowsAll_add (base level : Nat) {depth next : Nat} {steps : List Step}
    (hdepth : depthAfterAll? depth steps = some next) (hfilled : FilledAll steps) :
    rowsAll (base + (level + depth)) steps
      = (rowsAll (level + depth) steps).map (CodeRow.moved base) := by
  cases steps with
  | nil => rfl
  | cons s ss =>
      rw [depthAfterAll?] at hdepth
      cases hs : s.depthAfter? depth with
      | none => rw [hs] at hdepth; cases hdepth
      | some inner =>
          rw [hs] at hdepth
          have hinner := (inside_of_mem_rows level hs).1
          have houter := (inside_of_mem_rows (base + level) hs).1
          rw [Nat.add_assoc, Nat.add_assoc] at houter
          rw [rowsAll, rowsAll, hinner, houter, List.map_append, rows_add base level hs hfilled.1,
            rowsAll_add base level hdepth hfilled.2]

end

mutual

lemma level_eq_zero_of_mem_rows {level : Nat} {s : Step} (h : s.Filled) :
    ∀ r ∈ s.rows level, r.text = "" → r.level = 0 := by
  intro r hr hempty
  cases s with
  | line text =>
      rw [Step.rows, List.mem_singleton] at hr
      rw [hr] at hempty
      exact absurd hempty h
  | lines text =>
      obtain ⟨row, -, rfl⟩ := List.mem_map.mp hr
      have hrow : row.isEmpty = true := by simpa [CodeRow.ofLine] using hempty
      rw [CodeRow.ofLine, if_pos hrow]
  | blank =>
      rw [Step.rows, List.mem_singleton] at hr
      rw [hr]
  | comment rows =>
      obtain ⟨row, hrow, rfl⟩ := List.mem_map.mp hr
      exact absurd hempty (ne_empty_of_mem_commentRows row hrow)
  | indent => cases hr
  | dedent => cases hr
  | block header close steps =>
      obtain ⟨hheader, hclose, hsteps⟩ := h
      rcases List.mem_append.mp hr with hr | hr
      · rcases List.mem_cons.mp hr with rfl | hr
        · exact absurd hempty hheader
        · exact level_eq_zero_of_mem_rowsAll hsteps r hr hempty
      · rw [List.mem_singleton.mp hr] at hempty
        exact absurd hempty hclose

/-- An empty row of filled steps is a blank line. -/
lemma level_eq_zero_of_mem_rowsAll {level : Nat} {steps : List Step} (h : FilledAll steps) :
    ∀ r ∈ rowsAll level steps, r.text = "" → r.level = 0 := by
  intro r hr
  cases steps with
  | nil => cases hr
  | cons s ss =>
      rw [rowsAll] at hr
      rcases List.mem_append.mp hr with hr | hr
      · exact level_eq_zero_of_mem_rows h.1 r hr
      · exact level_eq_zero_of_mem_rowsAll h.2 r hr

end

/-! ### Written rows -/

lemma indentation_add (style : IndentStyle) (base level : Nat) :
    indentation style (base + level) = indentation style base ++ indentation style level := by
  rw [indentation, indentation, indentation, List.replicate_add, String.join_append]

/-- A written row that is taken as a line of code is the row further in. -/
lemma line_ofLine_line (style : IndentStyle) (base : Nat) {r : CodeRow}
    (h : r.text = "" → r.level = 0) :
    (CodeRow.ofLine base (r.line style)).line style = (r.moved base).line style := by
  obtain ⟨level, text⟩ := r
  by_cases htext : text = ""
  · obtain rfl : level = 0 := h htext
    rw [htext]
    rfl
  · have hline : (CodeRow.line style ⟨level, text⟩).isEmpty ≠ true := by
      simp [CodeRow.line, htext]
    rw [moved_of_ne_empty htext, CodeRow.ofLine, if_neg hline, CodeRow.line, CodeRow.line,
      CodeRow.line, indentation_add, String.append_assoc]

lemma textOf_map_congr {style : IndentStyle} {f g : CodeRow → CodeRow} {rows : List CodeRow}
    (h : ∀ r ∈ rows, (f r).line style = (g r).line style) :
    textOf style (rows.map f) = textOf style (rows.map g) := by
  induction rows with
  | nil => rfl
  | cons r rows ih =>
      obtain ⟨hr, hrows⟩ := List.forall_mem_cons.mp h
      rw [List.map_cons, List.map_cons, textOf, textOf, hr, ih hrows]

namespace Builder

variable {a b c : Builder} {rows more : List CodeRow} {l : Nat}

/-- Two builders that have written the same text from the same place are the same. -/
lemma Writes.eq_of_textOf (hb : a.Writes b rows l) (hc : a.Writes c more l)
    (h : textOf a.style rows = textOf a.style more) : b = c := by
  obtain ⟨bstyle, blevel, btext⟩ := b
  obtain ⟨cstyle, clevel, ctext⟩ := c
  rw [mk.injEq]
  exact ⟨hb.style.trans hc.style.symm, hb.level.trans hc.level.symm,
    hb.text.trans (h ▸ hc.text.symm)⟩

end Builder

/-- **Code that is indented anew.** Take steps that lead back to where they started, without empty
lines of code and without line breaks in a row; the lines of a text without carriage returns never
have any. A builder at any level comes out the same, its level unchanged, whether it takes the steps
or the lines of the text that a fresh builder of its style makes of them. At the outermost level
that text is added as it is. -/
theorem run_eq_lines_renderIn (b : Builder) {steps : List Step}
    (hbalanced : depthAfterAll? 0 steps = some 0) (hfilled : FilledAll steps)
    (hunbroken : UnbrokenAll steps) :
    b.lines (renderIn b.style steps) = b.run steps
      ∧ (b.run steps).level = b.level
      ∧ (b.level = 0 → (b.run steps).text = b.text ++ renderIn b.style steps) := by
  have hrun := b.writes_run steps
  have hlevel : levelAfterAll b.level steps = b.level := (inside_of_mem_rowsAll b.level hbalanced).1
  have hrows : rowsAll b.level steps = (rowsAll 0 steps).map (CodeRow.moved b.level) :=
    rowsAll_add b.level 0 hbalanced hfilled
  have hsplit : Text.lines (renderIn b.style steps)
      = (rowsAll 0 steps).map (CodeRow.line b.style) := by
    rw [renderIn_eq_textOf]
    exact lines_textOf b.style (unbroken_of_mem_rowsAll hunbroken)
  have hlines := Builder.writes_foldl .ofLine Builder.writes_row
    (Text.lines (renderIn b.style steps)) b
  rw [hlevel] at hrun
  refine ⟨hlines.eq_of_textOf hrun ?_, hrun.level, fun houtermost => ?_⟩
  · rw [hsplit, hrows, List.map_map]
    exact textOf_map_congr fun r hr =>
      line_ofLine_line b.style b.level (level_eq_zero_of_mem_rowsAll hfilled r hr)
  · rw [hrun.text, houtermost, renderIn_eq_textOf]

/-- A comment and a block with a text of several lines, a blank line and a line further in. -/
def nestedSteps : List Step :=
  [.comment ["int f()", "box.h"],
    .block "if (n) \x7b" "\x7d" [.lines "a();\n\nb();", .blank, .indent, .line "c();", .dedent]]

theorem lines_renderIn_nestedSteps :
    let b : Builder := { style := .tab, level := 2, text := "x;\n" }
    (depthAfterAll? 0 nestedSteps = some 0 ∧ FilledAll nestedSteps ∧ UnbrokenAll nestedSteps)
      ∧ b.lines (renderIn .tab nestedSteps) = b.run nestedSteps
      ∧ (b.run nestedSteps).text
        = "x;\n\t\t/** int f()\n\t\t * box.h\n\t\t */\n\t\tif (n) \x7b\n"
          ++ "\t\t\ta();\n\n\t\t\tb();\n\n\t\t\t\tc();\n\t\t\x7d\n" := by
  have hbalanced : depthAfterAll? 0 nestedSteps = some 0 := by decide
  have hfilled : FilledAll nestedSteps := by simp [nestedSteps, FilledAll, Step.Filled]
  have hunbroken : UnbrokenAll nestedSteps := by
    simp only [nestedSteps, UnbrokenAll, Step.Unbroken]
    decide
  refine ⟨⟨hbalanced, hfilled, hunbroken⟩, ?_, by decide⟩
  exact (run_eq_lines_renderIn { style := .tab, level := 2, text := "x;\n" } hbalanced hfilled
    hunbroken).1

end LuaBinder.Code
