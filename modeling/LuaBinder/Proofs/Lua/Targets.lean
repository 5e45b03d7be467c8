import LuaBinder.Proofs.Code.Headers
import LuaBinder.Proofs.Lua.Lines

/-!
What the lines of a chooser return to.

Every branch of a chooser has one line inside, and the lines of its text are known if none of the
names in it breaks a line.

* `branchTarget?`: the function that a line inside of a branch returns to.
* `Chooser.SingleLined.isRow_of_mem_rows`: every row of a chooser makes one line.
* `Chooser.SingleLined.filterMap_branchTarget?`: the lines of a chooser name its targets, in order,
  and no other function.
-/

namespace LuaBinder.Lua

open Code Text

/-- The function that a line returns to, at the level of the inside of a branch. -/
def branchTarget? (line : String) : Option String := between? "    return " "(L);" line

/-- A line feed is no character of code. -/
lemma admits_ne_newline : Admits (· != '\n') := by
  intro c hc
  rw [bne_iff_ne]
  rintro rfl
  exact absurd hc (by decide)

namespace Chooser

/-! ### Rows -/

/-- No text of the chooser breaks a line. -/
structure SingleLined (c : Chooser) : Prop where
  functionName : OneLine c.functionName
  texts : c.MadeOf (· != '\n')

/-- A row that ends with a given text makes one line. -/
lemma isRow_line {front back : String} {level : Nat} (hfront : Consists (· != '\n') front)
    (hback : IsRow back) (hne : back ≠ "") :
    IsRow (CodeRow.line .spaces ⟨level, front ++ back⟩) := by
  refine ⟨?_, ?_⟩
  · have hindentation : OneLine (indentation .spaces level) :=
      (unbroken_indentation .spaces level).noFeed
    exact hindentation.append (OneLine.append (consists_ne_iff.mp hfront) hback.oneLine)
  · have hlast : back.toList ≠ [] := fun hnil =>
      hne (String.toList_inj.mp (by rw [hnil, String.toList_empty]))
    rw [CodeRow.line, String.toList_append, String.toList_append, ← List.append_assoc,
      List.getLast?_append_of_ne_nil _ hlast]
    exact hback.noReturn

lemma levelAfterAll_alternativeSteps (isFirst : Bool) (as : List Alternative) (level : Nat) :
    levelAfterAll level (alternativeSteps isFirst as) = level := by
  induction as generalizing isFirst with
  | nil => rfl
  | cons a as ih => exact ih false

/-- The rows of a branch are its condition and its return. -/
lemma rowsAll_alternativeSteps_cons (isFirst : Bool) (a : Alternative) (as : List Alternative) :
    rowsAll 1 (alternativeSteps isFirst (a :: as))
      = ⟨1, branchHead isFirst a.text⟩ :: ⟨2, "return " ++ a.target ++ "(L);"⟩
        :: rowsAll 1 (alternativeSteps false as) := rfl

/-- The body of a chooser ends at the level where it starts. -/
lemma levelAfterAll_bodySteps (c : Chooser) : levelAfterAll 1 c.bodySteps = 1 := by
  rw [bodySteps, List.cons_append, levelAfterAll]
  show levelAfterAll 1 (alternativeSteps true c.alternatives ++ c.errorSteps) = 1
  rw [levelAfterAll_append, levelAfterAll_alternativeSteps]
  rfl

lemma rowsAll_bodySteps (c : Chooser) :
    rowsAll 1 c.bodySteps
      = ⟨1, "int " ++ topVar ++ " = lua_gettop(L);"⟩
        :: (rowsAll 1 (alternativeSteps true c.alternatives)
          ++ [⟨1, "lua_pushstring(L, \"" ++ c.qualifiedName
                ++ ": no overload accepts these arguments\");"⟩,
            ⟨1, "return lua_error(L);"⟩]) := by
  rw [bodySteps, List.cons_append, rowsAll]
  show _ :: rowsAll 1 (alternativeSteps true c.alternatives ++ c.errorSteps) = _
  rw [rowsAll_append, levelAfterAll_alternativeSteps]
  rfl

lemma rowsAll_steps (c : Chooser) :
    rowsAll 0 c.steps
      = ⟨0, "/** " ++ ("Overloaded function chooser for " ++ c.functionName ++ "(...)") ++ " */"⟩
        :: ⟨0, definitionLine c.name⟩ :: (rowsAll 1 c.bodySteps ++ [⟨0, "\x7d"⟩]) := by
  simp [steps, rowsAll, Step.rows, Step.levelAfter, commentRows, levelAfterAll_bodySteps]

/-- The lines of a chooser name its targets. -/
lemma filterMap_branchTarget?_rows (isFirst : Bool) (as : List Alternative) :
    ((rowsAll 1 (alternativeSteps isFirst as)).map (CodeRow.line .spaces)).filterMap branchTarget?
      = as.map Alternative.target := by
  induction as generalizing isFirst with
  | nil => cases isFirst <;> decide
  | cons a as ih =>
      have hhead : branchTarget? (CodeRow.line .spaces ⟨1, branchHead isFirst a.text⟩) = none := by
        have hif : ∀ rest, branchTarget? ("  if (" ++ rest) = none :=
          between?_eq_none_of_apart rfl rfl _
        have helse : ∀ rest, branchTarget? ("  \x7d else if (" ++ rest) = none :=
          between?_eq_none_of_apart rfl rfl _
        cases isFirst with
        | true => exact hif (a.text ++ ") \x7b")
        | false => exact helse (a.text ++ ") \x7b")
      have hreturn : branchTarget? (CodeRow.line .spaces ⟨2, "return " ++ a.target ++ "(L);"⟩)
          = some a.target := by
        refine between?_eq_some_iff.mpr ?_
        rw [CodeRow.line, show indentation .spaces 2 = "    " by decide, ← String.append_assoc,
          ← String.append_assoc]
        rfl
      rw [rowsAll_alternativeSteps_cons, List.map_cons, List.map_cons,
        List.filterMap_cons_none hhead, List.filterMap_cons_some hreturn, ih, List.map_cons]

/-- The condition and the return of a branch make one line each. -/
lemma isRow_of_mem_alternativeSteps (isFirst : Bool) {as : List Alternative}
    (has : ∀ a ∈ as, Consists (· != '\n') a.text ∧ Consists (· != '\n') a.target) :
    ∀ r ∈ rowsAll 1 (alternativeSteps isFirst as), IsRow (r.line .spaces) := by
  induction as generalizing isFirst with
  | nil =>
      intro r hr
      rw [List.mem_singleton.mp hr]
      exact ⟨by decide, by decide⟩
  | cons a as ih =>
      obtain ⟨⟨htext, htarget⟩, hrest⟩ := List.forall_mem_cons.mp has
      have hhead : Consists (· != '\n') (if isFirst then "if" else "\x7d else if") := by
        cases isFirst <;> decide
      rw [rowsAll_alternativeSteps_cons, List.forall_mem_cons, List.forall_mem_cons]
      refine ⟨?_, ?_, ih false hrest⟩
      · exact isRow_line (.append (.append hhead (by decide)) htext)
          (⟨by decide, by decide⟩ : IsRow ") \x7b") (by decide)
      · exact isRow_line (.append (by decide) htarget)
          (⟨by decide, by decide⟩ : IsRow "(L);") (by decide)

/-- Every row of a chooser makes one line: its names break none, and it ends with other
characters. -/
lemma SingleLined.isRow_of_mem_rows {c : Chooser} (hc : c.SingleLined) :
    ∀ r ∈ rowsAll 0 c.steps, IsRow (r.line .spaces) := by
  have hcomment : IsRow (CodeRow.line .spaces
      ⟨0, "/** " ++ ("Overloaded function chooser for " ++ c.functionName ++ "(...)") ++ " */"⟩) :=
    isRow_line (.append (by decide) (.append (.append (by decide)
      (consists_ne_iff.mpr hc.functionName)) (by decide))) ⟨by decide, by decide⟩ (by decide)
  have hheader : IsRow (CodeRow.line .spaces ⟨0, definitionLine c.name⟩) :=
    isRow_line (.append (by decide) hc.texts.name) ⟨by decide, by decide⟩ (by decide)
  have htop : IsRow (CodeRow.line .spaces ⟨1, "int " ++ topVar ++ " = lua_gettop(L);"⟩) :=
    ⟨by decide, by decide⟩
  have hbranches := isRow_of_mem_alternativeSteps true hc.texts.alternatives
  have herror : IsRow (CodeRow.line .spaces ⟨1, "lua_pushstring(L, \"" ++ c.qualifiedName
      ++ ": no overload accepts these arguments\");"⟩) :=
    isRow_line (.append (by decide) hc.texts.qualifiedName) ⟨by decide, by decide⟩ (by decide)
  have hlast : IsRow (CodeRow.line .spaces ⟨1, "return lua_error(L);"⟩) := ⟨by decide, by decide⟩
  have hclose : IsRow (CodeRow.line .spaces ⟨0, "\x7d"⟩) := ⟨by decide, by decide⟩
  have hnil : ∀ r ∈ ([] : List CodeRow), IsRow (r.line .spaces) :=
    fun _ h => absurd h List.not_mem_nil
  rw [rowsAll_steps, rowsAll_bodySteps]
  simp only [List.forall_mem_cons, List.forall_mem_append, List.cons_append]
  exact ⟨hcomment, hheader, htop, ⟨hbranches, herror, hlast, hnil⟩, hclose, hnil⟩

/-- The lines of a chooser are its rows. -/
lemma SingleLined.lines_text {c : Chooser} (hc : c.SingleLined) :
    lines c.text = (rowsAll 0 c.steps).map (CodeRow.line .spaces) :=
  lines_render_of_isRow hc.isRow_of_mem_rows

/-- The lines of a chooser name its targets, in order, and no other function. -/
lemma SingleLined.filterMap_branchTarget? {c : Chooser} (hc : c.SingleLined) :
    (lines c.text).filterMap branchTarget? = c.alternatives.map Alternative.target := by
  have hfront : ∀ rest, branchTarget? ("/** " ++ rest) = none :=
    between?_eq_none_of_apart rfl rfl _
  have hdefinition : ∀ rest, branchTarget? ("static int " ++ rest) = none :=
    between?_eq_none_of_apart rfl rfl _
  have hpush : ∀ rest, branchTarget? ("  lua_pushstring(L, \"" ++ rest) = none :=
    between?_eq_none_of_apart rfl rfl _
  have hcomment : branchTarget? (CodeRow.line .spaces
      ⟨0, "/** " ++ ("Overloaded function chooser for " ++ c.functionName ++ "(...)") ++ " */"⟩)
      = none := by
    rw [line_of_level_zero, String.append_assoc]
    exact hfront _
  have hheader : branchTarget? (CodeRow.line .spaces ⟨0, definitionLine c.name⟩) = none := by
    rw [line_of_level_zero, definitionLine, String.append_assoc]
    exact hdefinition _
  have htop : branchTarget? (CodeRow.line .spaces ⟨1, "int " ++ topVar ++ " = lua_gettop(L);"⟩)
      = none := by decide
  have herror : branchTarget? (CodeRow.line .spaces ⟨1, "lua_pushstring(L, \"" ++ c.qualifiedName
      ++ ": no overload accepts these arguments\");"⟩) = none := by
    rw [CodeRow.line, String.append_assoc, ← String.append_assoc]
    exact hpush _
  have hlast : branchTarget? (CodeRow.line .spaces ⟨1, "return lua_error(L);"⟩) = none := by decide
  have hclose : branchTarget? (CodeRow.line .spaces ⟨0, "\x7d"⟩) = none := by decide
  rw [hc.lines_text, rowsAll_steps, rowsAll_bodySteps]
  simp only [List.map_cons, List.map_append, List.map_nil, List.cons_append, List.filterMap_append,
    List.filterMap_cons, List.filterMap_nil, hcomment, hheader, htop, herror, hlast, hclose,
    filterMap_branchTarget?_rows, List.append_nil]

end Chooser

end LuaBinder.Lua
