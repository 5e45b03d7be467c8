import LuaBinder.Proofs.Code.Rows

/-!
Code by its scopes.

* `Line`: a line of code, with the variable that it declares, see `Variable`.
* `Statement`, `Scopes`: a line, or scopes one behind the other, as in a chain of branches or a
  guarded region with its handlers. The braces are not written in them: they come with the rows.
* `statementRows`, `linesAll`: the rows of statements, and their lines without the braces.
* `Prints`: steps write the rows of statements, at any level, see `Prints.append`, `Prints.scopes`
  and `Prints.block`.
* `render_comment`: the text of such steps under a comment.
-/

namespace LuaBinder.Code

open Text

/-! ### Statements -/

/-- What a variable is declared for: to hold an argument of the call, or for the code itself. -/
inductive Role where
  | argument
  | internal
  deriving DecidableEq

/-- A variable that code declares. -/
structure Variable where
  role : Role
  name : String
  deriving DecidableEq

/-- A line of code: one without a declaration, or one that declares the variable between its two
parts. -/
inductive Line where
  | plain (text : String)
  | declaring (role : Role) (front name back : String)

namespace Line

/-- The line as it is written. -/
def text : Line → String
  | .plain text => text
  | .declaring _ front name back => front ++ name ++ back

/-- The variables that the line declares. -/
def declared : Line → List Variable
  | .plain _ => []
  | .declaring role _ name _ => [⟨role, name⟩]

end Line

mutual

/-- A line, or scopes that follow each other. -/
inductive Statement where
  | line (l : Line)
  | scopes (s : Scopes)

/-- Scopes that follow each other, each with the line that opens it. -/
inductive Scopes where
  | last (head : Line) (body : List Statement)
  | next (head : Line) (body : List Statement) (rest : Scopes)

end

mutual

/-- The rows of a statement. -/
def Statement.rows (level : Nat) : Statement → List CodeRow
  | .line l => [⟨level, l.text⟩]
  | .scopes s => s.rows level ""

/-- The rows of scopes. What closes the scope in front is given: nothing, or a brace in the row that
opens the next one. -/
def Scopes.rows (level : Nat) (closing : String) : Scopes → List CodeRow
  | .last head body =>
    ⟨level, closing ++ head.text ++ " \x7b"⟩ :: statementRows (level + 1) body
      ++ [⟨level, "\x7d"⟩]
  | .next head body rest =>
    ⟨level, closing ++ head.text ++ " \x7b"⟩ :: statementRows (level + 1) body
      ++ rest.rows level "\x7d "

/-- The rows of some statements. -/
def statementRows (level : Nat) : List Statement → List CodeRow
  | [] => []
  | s :: ss => s.rows level ++ statementRows level ss

end

mutual

/-- The lines of a statement, without braces. -/
def Statement.lines : Statement → List Line
  | .line l => [l]
  | .scopes s => s.lines

/-- The lines of scopes. -/
def Scopes.lines : Scopes → List Line
  | .last head body => head :: linesAll body
  | .next head body rest => head :: linesAll body ++ rest.lines

/-- The lines of some statements. -/
def linesAll : List Statement → List Line
  | [] => []
  | s :: ss => s.lines ++ linesAll ss

end

lemma linesAll_append (ss more : List Statement) :
    linesAll (ss ++ more) = linesAll ss ++ linesAll more := by
  induction ss with
  | nil => rfl
  | cons s ss ih => rw [List.cons_append, linesAll, ih, linesAll, List.append_assoc]

lemma linesAll_flatMap {α : Type} (statements : α → List Statement) (as : List α) :
    linesAll (as.flatMap statements) = as.flatMap fun a => linesAll (statements a) := by
  induction as with
  | nil => rfl
  | cons a as ih => rw [List.flatMap_cons, linesAll_append, ih, List.flatMap_cons]

lemma statementRows_append (level : Nat) (ss more : List Statement) :
    statementRows level (ss ++ more) = statementRows level ss ++ statementRows level more := by
  induction ss with
  | nil => rfl
  | cons s ss ih => rw [List.cons_append, statementRows, ih, statementRows, List.append_assoc]

/-! ### Steps that write statements -/

/-- The steps write the rows of the statements and come back to the level where they started. -/
structure Prints (steps : List Step) (statements : List Statement) : Prop where
  rows : ∀ level, rowsAll level steps = statementRows level statements
  level : ∀ level, levelAfterAll level steps = level

/-- The steps write the rows of the scopes behind what closes the scope in front. -/
structure PrintsScopes (closing : String) (steps : List Step) (s : Scopes) : Prop where
  rows : ∀ level, rowsAll level steps = s.rows level closing
  level : ∀ level, levelAfterAll level steps = level

section Prints

variable {steps more : List Step} {ss ts : List Statement}

lemma levelAfterAll_append (level : Nat) (steps more : List Step) :
    levelAfterAll level (steps ++ more) = levelAfterAll (levelAfterAll level steps) more := by
  induction steps generalizing level with
  | nil => rfl
  | cons s steps ih => rw [List.cons_append, levelAfterAll, ih, levelAfterAll]

lemma Prints.nil : Prints [] [] := ⟨fun _ => rfl, fun _ => rfl⟩

lemma Prints.append (h : Prints steps ss) (h' : Prints more ts) :
    Prints (steps ++ more) (ss ++ ts) := by
  refine ⟨fun level => ?_, fun level => ?_⟩
  · rw [rowsAll_append, h.level, h.rows, h'.rows, statementRows_append]
  · rw [levelAfterAll_append, h.level, h'.level]

lemma Prints.line {l : Line} {text : String} (htext : text = l.text) (h : Prints steps ss) :
    Prints (.line text :: steps) (.line l :: ss) := by
  refine ⟨fun level => ?_, h.level⟩
  show ⟨level, text⟩ :: rowsAll level steps = ⟨level, l.text⟩ :: statementRows level ss
  rw [h.rows, htext]

/-- Steps for each element of a list. -/
lemma Prints.flatMap {α : Type} {steps : α → List Step} {statements : α → List Statement}
    {as : List α} (h : ∀ a ∈ as, Prints (steps a) (statements a)) :
    Prints (as.flatMap steps) (as.flatMap statements) := by
  induction as with
  | nil => exact .nil
  | cons a as ih =>
      obtain ⟨ha, has⟩ := List.forall_mem_cons.mp h
      exact ha.append (ih has)

/-- The last of some scopes. -/
lemma PrintsScopes.last {closing text : String} {head : Line} (h : Prints steps ss)
    (htext : text = closing ++ head.text ++ " \x7b") :
    PrintsScopes closing (.line text :: .indent :: steps ++ [.dedent, .line "\x7d"])
      (.last head ss) := by
  refine ⟨fun level => ?_, fun level => ?_⟩
  · rw [rowsAll_append]
    simp only [rowsAll, Step.rows, Step.levelAfter, levelAfterAll, h.rows, h.level, htext]
    rfl
  · rw [levelAfterAll_append]
    simp only [levelAfterAll, Step.levelAfter, h.level, Nat.add_sub_cancel]

/-- A scope with others behind it. -/
lemma PrintsScopes.next {closing text : String} {head : Line} {rest : Scopes} (h : Prints steps ss)
    (h' : PrintsScopes "\x7d " more rest) (htext : text = closing ++ head.text ++ " \x7b") :
    PrintsScopes closing (.line text :: .indent :: steps ++ .dedent :: more)
      (.next head ss rest) := by
  refine ⟨fun level => ?_, fun level => ?_⟩
  · rw [rowsAll_append]
    simp only [rowsAll, Step.rows, Step.levelAfter, levelAfterAll, h.rows, h.level, h'.rows, htext,
      Nat.add_sub_cancel]
    rfl
  · rw [levelAfterAll_append]
    simp only [levelAfterAll, Step.levelAfter, h.level, h'.level, Nat.add_sub_cancel]

lemma Prints.scopes {s : Scopes} (h : PrintsScopes "" steps s) : Prints steps [.scopes s] := by
  refine ⟨fun level => ?_, h.level⟩
  rw [h.rows, statementRows, statementRows, List.append_nil, Statement.rows]

/-- A single scope may be written as a block. -/
lemma Prints.block {text : String} {head : Line} (h : Prints steps ss)
    (htext : text = head.text ++ " \x7b") :
    Prints [.block text "\x7d" steps] [.scopes (.last head ss)] := by
  refine ⟨fun level => ?_, fun level => ?_⟩
  · simp only [rowsAll, Step.rows, h.rows, h.level, htext, Nat.add_sub_cancel, statementRows,
      Statement.rows, Scopes.rows, String.empty_append, List.append_nil]
  · simp only [levelAfterAll, Step.levelAfter, h.level, Nat.add_sub_cancel]

end Prints

/-- The text of steps under a comment. -/
lemma render_comment {steps : List Step} {ss : List Statement} (h : Prints steps ss)
    (rows : List String) :
    render (.comment rows :: steps)
      = render [.comment rows] ++ textOf .spaces (statementRows 0 ss) := by
  have hcomment : depthAfterAll? 0 [Step.comment rows] = some 0 := rfl
  have hsteps : render steps = textOf .spaces (statementRows 0 ss) := by
    rw [render, text_run, String.empty_append, h.rows]
  rw [← List.singleton_append, render_append hcomment, hsteps]

end LuaBinder.Code
