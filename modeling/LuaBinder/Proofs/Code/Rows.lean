import LuaBinder.Proofs.Code.Output

/-!
The rows of written code, each with its level.

* `CodeRow`, `rowsAll`: the rows that steps write, in order.
* `textsAll`: the texts of these rows, which depend on no level, see `map_text_rowsAll`.
* `text_run`: a builder writes these rows, each behind the indentation of its level.
* `lines_render`: the lines of a rendered text are its rows, if no row holds a line break.
* `depthAfter?`: how far in steps lead; absent where they come out of where they started.
* `inside_of_mem_rowsAll`: steps that never come out write no row further out; `render_append`: the
  text behind them does not depend on them.
-/

namespace LuaBinder.Code

open Text

/-! ### Rows -/

/-- A row of code: its level and its text. -/
structure CodeRow where
  level : Nat
  text : String

/-- What stands in front of a row. -/
def indentation (style : IndentStyle) (level : Nat) : String :=
  String.join (List.replicate level style.unit)

/-- The row as it is written. -/
def CodeRow.line (style : IndentStyle) (r : CodeRow) : String := indentation style r.level ++ r.text

/-- Rows one below the other. -/
def textOf (style : IndentStyle) : List CodeRow → String
  | [] => ""
  | r :: rows => r.line style ++ "\n" ++ textOf style rows

/-- The rows of a block comment. -/
def commentRows : List String → List String
  | [] => []
  | [single] => ["/** " ++ single ++ " */"]
  | first :: rest => ("/** " ++ first) :: rest.map (" * " ++ ·) ++ [" */"]

/-- A line of a longer text; an empty one gets no indentation. -/
def CodeRow.ofLine (level : Nat) (row : String) : CodeRow :=
  { level := if row.isEmpty then 0 else level, text := row }

mutual

/-- The level after a step. -/
def Step.levelAfter (level : Nat) : Step → Nat
  | .indent => level + 1
  | .dedent => level - 1
  | .block _ _ steps => levelAfterAll (level + 1) steps - 1
  | _ => level

/-- The level after some steps. -/
def levelAfterAll (level : Nat) : List Step → Nat
  | [] => level
  | s :: ss => levelAfterAll (s.levelAfter level) ss

end

mutual

/-- The rows of a step. -/
def Step.rows (level : Nat) : Step → List CodeRow
  | .line text => [⟨level, text⟩]
  | .lines text => (Text.lines text).map (.ofLine level)
  | .blank => [⟨0, ""⟩]
  | .comment rows => (commentRows rows).map (⟨level, ·⟩)
  | .indent => []
  | .dedent => []
  | .block header close steps =>
    ⟨level, header⟩ :: rowsAll (level + 1) steps ++ [⟨levelAfterAll (level + 1) steps - 1, close⟩]

/-- The rows of some steps. -/
def rowsAll (level : Nat) : List Step → List CodeRow
  | [] => []
  | s :: ss => s.rows level ++ rowsAll (s.levelAfter level) ss

end

lemma rowsAll_append (level : Nat) (steps more : List Step) :
    rowsAll level (steps ++ more)
      = rowsAll level steps ++ rowsAll (levelAfterAll level steps) more := by
  induction steps generalizing level with
  | nil => rfl
  | cons s ss ih => rw [List.cons_append, rowsAll, ih, rowsAll, levelAfterAll, List.append_assoc]

lemma textOf_append (style : IndentStyle) (rows more : List CodeRow) :
    textOf style (rows ++ more) = textOf style rows ++ textOf style more := by
  induction rows with
  | nil => rw [List.nil_append, textOf, String.empty_append]
  | cons r rows ih =>
      rw [List.cons_append, textOf, textOf, ih]
      simp only [String.append_assoc]

/-! ### Texts of rows -/

mutual

/-- The texts of the rows of a step. -/
def Step.texts : Step → List String
  | .line text => [text]
  | .lines text => Text.lines text
  | .blank => [""]
  | .comment rows => commentRows rows
  | .indent => []
  | .dedent => []
  | .block header close steps => header :: textsAll steps ++ [close]

/-- The texts of the rows of some steps. -/
def textsAll : List Step → List String
  | [] => []
  | s :: ss => s.texts ++ textsAll ss

end

mutual

lemma map_text_rows (level : Nat) (s : Step) : (s.rows level).map CodeRow.text = s.texts := by
  cases s with
  | line text => rfl
  | lines text =>
      rw [Step.rows, List.map_map]
      exact List.map_id' _
  | blank => rfl
  | comment rows =>
      rw [Step.rows, List.map_map]
      exact List.map_id' _
  | indent => rfl
  | dedent => rfl
  | block header close steps =>
      rw [Step.rows, Step.texts, List.map_append, List.map_cons, map_text_rowsAll]
      rfl

/-- At any level the rows have the same texts. -/
lemma map_text_rowsAll (level : Nat) (steps : List Step) :
    (rowsAll level steps).map CodeRow.text = textsAll steps := by
  cases steps with
  | nil => rfl
  | cons s ss => rw [rowsAll, textsAll, List.map_append, map_text_rows, map_text_rowsAll]

end

lemma textsAll_append (steps more : List Step) :
    textsAll (steps ++ more) = textsAll steps ++ textsAll more := by
  rw [← map_text_rowsAll 0, rowsAll_append, List.map_append, map_text_rowsAll, map_text_rowsAll]

/-! ### What a builder writes -/

namespace Builder

/-- The later builder has written some rows and stands at a level. -/
structure Writes (earlier later : Builder) (rows : List CodeRow) (level : Nat) : Prop where
  style : later.style = earlier.style
  level : later.level = level
  text : later.text = earlier.text ++ textOf earlier.style rows

variable {a b c : Builder} {rows more : List CodeRow} {l m : Nat}

lemma Writes.trans (hab : a.Writes b rows l) (hbc : b.Writes c more m) :
    a.Writes c (rows ++ more) m := by
  refine ⟨hbc.style.trans hab.style, hbc.level, ?_⟩
  rw [hbc.text, hab.text, hab.style, textOf_append, String.append_assoc]

lemma writes_nothing (b : Builder) (level : Nat) :
    b.Writes { b with level := level } [] level :=
  ⟨rfl, rfl, by rw [textOf, String.append_empty]⟩

lemma writes_line (b : Builder) (text : String) :
    b.Writes (b.line text) [⟨b.level, text⟩] b.level := by
  refine ⟨rfl, rfl, ?_⟩
  show b.text ++ b.margin ++ text ++ "\n" = _
  rw [textOf, textOf, String.append_empty, CodeRow.line, String.append_assoc, String.append_assoc,
    String.append_assoc]
  rfl

lemma writes_blank (b : Builder) : b.Writes b.blank [⟨0, ""⟩] b.level := ⟨rfl, rfl, rfl⟩

lemma writes_row (b : Builder) (text : String) :
    b.Writes (b.row text) [.ofLine b.level text] b.level := by
  rw [row, CodeRow.ofLine]
  split
  · next hempty =>
      have hnil : text = "" := by simpa using hempty
      rw [hnil]
      exact b.writes_blank
  · exact b.writes_line text

/-- Rows that are written one by one. -/
lemma writes_foldl {write : Builder → String → Builder} (rowOf : Nat → String → CodeRow)
    (h : ∀ (b : Builder) (text : String), b.Writes (write b text) [rowOf b.level text] b.level)
    (texts : List String) (b : Builder) :
    b.Writes (texts.foldl write b) (texts.map (rowOf b.level)) b.level := by
  induction texts generalizing b with
  | nil => exact b.writes_nothing b.level
  | cons text texts ih =>
      have hfirst := h b text
      have hrest := ih (write b text)
      rw [hfirst.level] at hrest
      exact hfirst.trans hrest

lemma writes_comment (b : Builder) (rows : List String) :
    b.Writes (b.comment rows) ((commentRows rows).map (⟨b.level, ·⟩)) b.level := by
  match rows with
  | [] => exact b.writes_nothing b.level
  | [single] => exact b.writes_line _
  | first :: second :: rest =>
      have hfirst := b.writes_line ("/** " ++ first)
      have hrest := writes_foldl (fun level row => ⟨level, " * " ++ row⟩)
        (fun (b : Builder) row => b.writes_line (" * " ++ row)) (second :: rest)
        (b.line ("/** " ++ first))
      have hlast := writes_line
        ((second :: rest).foldl (fun b row => b.line (" * " ++ row)) (b.line ("/** " ++ first)))
        " */"
      rw [hrest.level] at hlast
      have hall := (hfirst.trans hrest).trans hlast
      simp only [commentRows, List.map_append, List.map_cons, List.map_map]
      exact hall

mutual

/-- A step writes its rows. -/
lemma writes_step (b : Builder) (s : Step) :
    b.Writes (b.step s) (s.rows b.level) (s.levelAfter b.level) := by
  cases s with
  | line text => rw [step]; exact b.writes_line text
  | lines text => rw [step]; exact writes_foldl .ofLine writes_row (Text.lines text) b
  | blank => rw [step]; exact b.writes_blank
  | comment rows => rw [step]; exact b.writes_comment rows
  | indent => rw [step]; exact b.writes_nothing (b.level + 1)
  | dedent => rw [step]; exact b.writes_nothing (b.level - 1)
  | block header close steps =>
      rw [step, Step.rows, Step.levelAfter]
      have hheader : b.Writes (b.line header).indent [⟨b.level, header⟩] (b.level + 1) :=
        (b.writes_line header).trans ((b.line header).writes_nothing (b.level + 1))
      have hbody := writes_run (b.line header).indent steps
      have hdedent := writes_nothing ((b.line header).indent.run steps)
        (((b.line header).indent.run steps).level - 1)
      have hclose := writes_line ((b.line header).indent.run steps).dedent close
      have hall := ((hheader.trans hbody).trans hdedent).trans hclose
      have hlevel : ((b.line header).indent.run steps).dedent.level
          = levelAfterAll (b.level + 1) steps - 1 := congrArg (· - 1) hbody.level
      rw [hlevel, List.append_nil] at hall
      exact hall

/-- Steps write their rows. -/
lemma writes_run (b : Builder) (steps : List Step) :
    b.Writes (b.run steps) (rowsAll b.level steps) (levelAfterAll b.level steps) := by
  cases steps with
  | nil => rw [run]; exact b.writes_nothing b.level
  | cons s ss =>
      have hs := writes_step b s
      have hss := writes_run (b.step s) ss
      rw [hs.level] at hss
      rw [run, rowsAll, levelAfterAll]
      exact hs.trans hss

end

end Builder

/-- A builder writes the rows of its steps behind what it has written. -/
theorem text_run (b : Builder) (steps : List Step) :
    (b.run steps).text = b.text ++ textOf b.style (rowsAll b.level steps) :=
  (b.writes_run steps).text

/-! ### Lines -/

mutual

/-- No text of the step holds a line break, but that one which is written line by line. -/
def Step.Unbroken : Step → Prop
  | .line text => Text.Unbroken text
  | .lines text => ∀ row ∈ Text.lines text, Text.Unbroken row
  | .comment rows => ∀ row ∈ rows, Text.Unbroken row
  | .block header close steps =>
    Text.Unbroken header ∧ Text.Unbroken close ∧ UnbrokenAll steps
  | _ => True

/-- So with all steps. -/
def UnbrokenAll : List Step → Prop
  | [] => True
  | s :: ss => s.Unbroken ∧ UnbrokenAll ss

end

lemma unbrokenAll_iff {steps : List Step} : UnbrokenAll steps ↔ ∀ s ∈ steps, s.Unbroken := by
  induction steps with
  | nil => simp [UnbrokenAll]
  | cons s ss ih => rw [UnbrokenAll, ih, List.forall_mem_cons]

lemma unbrokenAll_append {steps more : List Step} :
    UnbrokenAll (steps ++ more) ↔ UnbrokenAll steps ∧ UnbrokenAll more := by
  simp only [unbrokenAll_iff, List.forall_mem_append]

lemma unbroken_of_mem_commentRows {rows : List String} (h : ∀ row ∈ rows, Text.Unbroken row) :
    ∀ row ∈ commentRows rows, Text.Unbroken row := by
  have hopen : Text.Unbroken "/** " := unbroken_ofList rfl
  have hstar : Text.Unbroken " * " := unbroken_ofList rfl
  have hclose : Text.Unbroken " */" := unbroken_ofList rfl
  match rows with
  | [] => exact h
  | [single] =>
      obtain ⟨hsingle, -⟩ := List.forall_mem_cons.mp h
      intro row hrow
      rw [List.mem_singleton.mp hrow]
      exact unbroken_append.mpr ⟨unbroken_append.mpr ⟨hopen, hsingle⟩, hclose⟩
  | first :: second :: rest =>
      obtain ⟨hfirst, hrest⟩ := List.forall_mem_cons.mp h
      intro row hrow
      rcases List.mem_append.mp hrow with hrow | hrow
      · rcases List.mem_cons.mp hrow with rfl | hrow
        · exact unbroken_append.mpr ⟨hopen, hfirst⟩
        · obtain ⟨text, htext, rfl⟩ := List.mem_map.mp hrow
          exact unbroken_append.mpr ⟨hstar, hrest text htext⟩
      · rw [List.mem_singleton.mp hrow]
        exact hclose

mutual

lemma unbroken_of_mem_rows {level : Nat} {s : Step} (h : s.Unbroken) :
    ∀ r ∈ s.rows level, Text.Unbroken r.text := by
  intro r hr
  cases s with
  | line text =>
      rw [Step.rows, List.mem_singleton] at hr
      rw [hr]
      exact h
  | lines text =>
      obtain ⟨row, hrow, rfl⟩ := List.mem_map.mp hr
      exact h row hrow
  | blank =>
      rw [Step.rows, List.mem_singleton] at hr
      rw [hr]
      exact (unbroken_ofList rfl : Text.Unbroken "")
  | comment rows =>
      obtain ⟨row, hrow, rfl⟩ := List.mem_map.mp hr
      exact unbroken_of_mem_commentRows h row hrow
  | indent => cases hr
  | dedent => cases hr
  | block header close steps =>
      obtain ⟨hheader, hclose, hsteps⟩ := h
      rcases List.mem_append.mp hr with hr | hr
      · rcases List.mem_cons.mp hr with rfl | hr
        · exact hheader
        · exact unbroken_of_mem_rowsAll hsteps r hr
      · rw [List.mem_singleton.mp hr]
        exact hclose

/-- No row of such steps holds a line break. -/
lemma unbroken_of_mem_rowsAll {level : Nat} {steps : List Step} (h : UnbrokenAll steps) :
    ∀ r ∈ rowsAll level steps, Text.Unbroken r.text := by
  intro r hr
  cases steps with
  | nil => cases hr
  | cons s ss =>
      rw [rowsAll] at hr
      rcases List.mem_append.mp hr with hr | hr
      · exact unbroken_of_mem_rows h.1 r hr
      · exact unbroken_of_mem_rowsAll h.2 r hr

end

lemma unbroken_indentation (style : IndentStyle) (level : Nat) :
    Text.Unbroken (indentation style level) := by
  induction level with
  | zero => exact (unbroken_ofList rfl : Text.Unbroken "")
  | succ level ih =>
      rw [indentation, List.replicate_succ, String.join_cons, unbroken_append]
      refine ⟨?_, ih⟩
      cases style <;> exact unbroken_ofList rfl

lemma wholeLines_textOf (style : IndentStyle) (rows : List CodeRow) :
    WholeLines (textOf style rows) := by
  induction rows with
  | nil => exact .inl rfl
  | cons r rows ih => exact (wholeLines_row _).append ih

/-- The lines of rows that make one line each are the rows. -/
lemma lines_textOf_of_isRow (style : IndentStyle) {rows : List CodeRow}
    (h : ∀ r ∈ rows, IsRow (r.line style)) :
    Text.lines (textOf style rows) = rows.map (CodeRow.line style) := by
  induction rows with
  | nil => exact (by decide : Text.lines "" = [])
  | cons r rows ih =>
      obtain ⟨hr, hrows⟩ := List.forall_mem_cons.mp h
      rw [textOf, lines_append (wholeLines_row _), lines_row hr, ih hrows]
      rfl

/-- The lines of rows without line breaks are the rows. -/
lemma lines_textOf (style : IndentStyle) {rows : List CodeRow}
    (h : ∀ r ∈ rows, Text.Unbroken r.text) :
    Text.lines (textOf style rows) = rows.map (CodeRow.line style) :=
  lines_textOf_of_isRow style fun r hr =>
    (unbroken_append.mpr ⟨unbroken_indentation style r.level, h r hr⟩).isRow

/-- The lines of a rendered text are its rows, if these make one line each. -/
lemma lines_render_of_isRow {steps : List Step}
    (h : ∀ r ∈ rowsAll 0 steps, IsRow (r.line .spaces)) :
    Text.lines (render steps) = (rowsAll 0 steps).map (CodeRow.line .spaces) := by
  rw [render, text_run, String.empty_append]
  exact lines_textOf_of_isRow .spaces h

/-- The lines of a rendered text are its rows, if no row holds a line break. -/
theorem lines_render {steps : List Step} (h : UnbrokenAll steps) :
    Text.lines (render steps) = (rowsAll 0 steps).map (CodeRow.line .spaces) := by
  rw [render, text_run, String.empty_append]
  exact lines_textOf .spaces (unbroken_of_mem_rowsAll h)

lemma unbroken_of_mem_lines_render {steps : List Step} (h : UnbrokenAll steps) :
    ∀ line ∈ Text.lines (render steps), Text.Unbroken line := by
  intro line hline
  rw [lines_render h] at hline
  obtain ⟨r, hr, rfl⟩ := List.mem_map.mp hline
  exact unbroken_append.mpr ⟨unbroken_indentation .spaces r.level, unbroken_of_mem_rowsAll h r hr⟩

/-- Steps that do not change the level come back to it. -/
lemma levelAfterAll_of_flatAll {steps : List Step} (h : Builder.flatAll steps = true)
    (level : Nat) : levelAfterAll level steps = level := by
  have hwritten := Builder.writes_run { style := .spaces, level } steps
  rw [← hwritten.level, Builder.level_run _ _ h]

/-- A text that is written line by line at the outermost level stands in the rendered text with all
its lines. -/
lemma lines_infix_lines_render {front back : List Step} {text : String}
    (hfront : Builder.flatAll front = true) (hmem : .lines text ∈ front)
    (hrows : ∀ line ∈ Text.lines text, IsRow line) :
    Text.lines text <:+: Text.lines (render (front ++ back)) := by
  obtain ⟨before, after, rfl⟩ := List.append_of_mem hmem
  have hbefore : Builder.flatAll before = true := by
    rw [Builder.flatAll_iff] at hfront ⊢
    exact fun s hs => hfront s (List.mem_append_left _ hs)
  have hline : ∀ line, (CodeRow.ofLine 0 line).line .spaces = line := by
    intro line
    have hlevel : (CodeRow.ofLine 0 line).level = 0 := ite_self 0
    rw [CodeRow.line, hlevel]
    exact String.empty_append
  have htext : Text.lines (textOf .spaces ((Text.lines text).map (.ofLine 0)))
      = Text.lines text := by
    rw [lines_textOf_of_isRow, List.map_map]
    · exact List.map_id'' hline _
    · intro r hr
      obtain ⟨line, hmemLine, rfl⟩ := List.mem_map.mp hr
      rw [hline]
      exact hrows line hmemLine
  rw [render, text_run, String.empty_append, List.append_assoc, List.cons_append, rowsAll_append,
    levelAfterAll_of_flatAll hbefore, rowsAll, Step.rows, textOf_append, textOf_append,
    lines_append (wholeLines_textOf _ _), lines_append (wholeLines_textOf _ _), htext]
  exact ⟨_, _, by rw [List.append_assoc]⟩

/-! ### Depth -/

mutual

/-- How far in a step leads from a depth; absent where it comes out. The steps of a block must end
where they started. -/
def Step.depthAfter? (depth : Nat) : Step → Option Nat
  | .indent => some (depth + 1)
  | .dedent =>
    match depth with
    | 0 => none
    | outer + 1 => some outer
  | .block _ _ steps => if depthAfterAll? 0 steps = some 0 then some depth else none
  | _ => some depth

/-- How far in some steps lead. -/
def depthAfterAll? (depth : Nat) : List Step → Option Nat
  | [] => some depth
  | s :: ss =>
    match s.depthAfter? depth with
    | some next => depthAfterAll? next ss
    | none => none

end

/-- Steps lead on from where the steps in front of them led. -/
lemma depthAfterAll?_append {depth inner next : Nat} {steps more : List Step}
    (h : depthAfterAll? depth steps = some inner) (hmore : depthAfterAll? inner more = some next) :
    depthAfterAll? depth (steps ++ more) = some next := by
  induction steps generalizing depth with
  | nil => cases h; exact hmore
  | cons s ss ih =>
      rw [depthAfterAll?] at h
      rw [List.cons_append, depthAfterAll?]
      cases hs : s.depthAfter? depth with
      | none => rw [hs] at h; cases h
      | some inner => rw [hs] at h; exact ih h

mutual

lemma depthAfter?_of_flat {s : Step} (h : Builder.flat s = true) (depth : Nat) :
    s.depthAfter? depth = some depth := by
  cases s with
  | indent => cases h
  | dedent => cases h
  | block header close steps =>
      rw [Step.depthAfter?, if_pos (depthAfterAll?_of_flatAll h 0)]
  | _ => rfl

/-- Steps that leave the level as it is lead nowhere. -/
lemma depthAfterAll?_of_flatAll {steps : List Step} (h : Builder.flatAll steps = true)
    (depth : Nat) : depthAfterAll? depth steps = some depth := by
  cases steps with
  | nil => rfl
  | cons s ss =>
      rw [Builder.flatAll, Bool.and_eq_true] at h
      rw [depthAfterAll?, depthAfter?_of_flat h.1 depth]
      exact depthAfterAll?_of_flatAll h.2 depth

end

/-- The row stands at a level or further in, or it is empty. -/
def CodeRow.Inside (level : Nat) (r : CodeRow) : Prop := level ≤ r.level ∨ r.text = ""

lemma inside_ofLine (level : Nat) (row : String) : (CodeRow.ofLine level row).Inside level := by
  by_cases h : row.isEmpty = true
  · exact .inr (show row = "" by simpa using h)
  · exact .inl (by rw [CodeRow.ofLine, if_neg h])

lemma CodeRow.Inside.mono {inner outer : Nat} {r : CodeRow} (h : r.Inside inner)
    (hle : outer ≤ inner) : r.Inside outer := h.imp_left hle.trans

mutual

lemma inside_of_mem_rows (base : Nat) {depth next : Nat} {s : Step}
    (h : s.depthAfter? depth = some next) :
    s.levelAfter (base + depth) = base + next
      ∧ ∀ r ∈ s.rows (base + depth), r.Inside base := by
  cases s with
  | line text =>
      cases h
      refine ⟨rfl, fun r hr => ?_⟩
      rw [List.mem_singleton.mp hr]
      exact .inl (Nat.le_add_right base depth)
  | lines text =>
      cases h
      refine ⟨rfl, fun r hr => ?_⟩
      obtain ⟨row, -, rfl⟩ := List.mem_map.mp hr
      exact (inside_ofLine _ row).mono (Nat.le_add_right base depth)
  | blank =>
      cases h
      refine ⟨rfl, fun r hr => ?_⟩
      rw [List.mem_singleton.mp hr]
      exact .inr rfl
  | comment rows =>
      cases h
      refine ⟨rfl, fun r hr => ?_⟩
      obtain ⟨row, -, rfl⟩ := List.mem_map.mp hr
      exact .inl (Nat.le_add_right base depth)
  | indent =>
      cases h
      exact ⟨rfl, fun r hr => absurd hr List.not_mem_nil⟩
  | dedent =>
      cases depth with
      | zero => cases h
      | succ outer =>
          cases h
          exact ⟨rfl, fun r hr => absurd hr List.not_mem_nil⟩
  | block header close steps =>
      rw [Step.depthAfter?] at h
      split at h
      · next hsteps =>
          cases h
          obtain ⟨hlevel, hrows⟩ := inside_of_mem_rowsAll (base + depth + 1) hsteps
          rw [Nat.add_zero] at hlevel hrows
          have hle : base ≤ base + depth + 1 := by omega
          refine ⟨by rw [Step.levelAfter, hlevel, Nat.add_sub_cancel], fun r hr => ?_⟩
          rw [Step.rows, hlevel, Nat.add_sub_cancel] at hr
          rcases List.mem_append.mp hr with hr | hr
          · rcases List.mem_cons.mp hr with rfl | hr
            · exact .inl (Nat.le_add_right base depth)
            · exact (hrows r hr).mono hle
          · rw [List.mem_singleton.mp hr]
            exact .inl (Nat.le_add_right base depth)
      · cases h

/-- Steps that do not come out of where they started write no row further out. -/
lemma inside_of_mem_rowsAll (base : Nat) {depth next : Nat} {steps : List Step}
    (h : depthAfterAll? depth steps = some next) :
    levelAfterAll (base + depth) steps = base + next
      ∧ ∀ r ∈ rowsAll (base + depth) steps, r.Inside base := by
  cases steps with
  | nil =>
      cases h
      exact ⟨rfl, fun r hr => absurd hr List.not_mem_nil⟩
  | cons s ss =>
      rw [depthAfterAll?] at h
      cases hs : s.depthAfter? depth with
      | none => rw [hs] at h; cases h
      | some inner =>
          rw [hs] at h
          obtain ⟨hlevel, hrows⟩ := inside_of_mem_rows base hs
          obtain ⟨hlevels, hrest⟩ := inside_of_mem_rowsAll base h
          rw [levelAfterAll, rowsAll, hlevel]
          exact ⟨hlevels, List.forall_mem_append.mpr ⟨hrows, hrest⟩⟩

end

/-- Behind steps that lead back to where they started, the text goes on as if it began there. -/
lemma render_append {steps : List Step} (h : depthAfterAll? 0 steps = some 0) (more : List Step) :
    render (steps ++ more) = render steps ++ render more := by
  have hrender : ∀ all, render all = "" ++ textOf .spaces (rowsAll 0 all) := fun all =>
    text_run { style := .spaces } all
  have hlevel : levelAfterAll 0 steps = 0 := (inside_of_mem_rowsAll 0 h).1
  rw [hrender, hrender steps, hrender more, rowsAll_append, hlevel, textOf_append]
  simp only [String.empty_append]

end LuaBinder.Code
