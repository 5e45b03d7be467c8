import Mathlib.Tactic
import LuaBinder.Code.Builder
import LuaBinder.Text.Search

/-!
Which statements of generated code control passes.

Generated functions have no jumps: a chain of branches, a guarded region with its handlers, and
loops that make one statement each. `Control.ofLine` tells what a line does to control, and
`executed` follows it through the steps of a function body up to the first return.

* `between?_eq_some_iff`: the reading of a condition out of the line that holds it.
* `ofLine_branch`, `ofLine_orBranch`, `ofLine_of_semicolon`: the lines of generated code.
* `executed_append`: statements that do not return are passed one by one.
* `executed_branch`: a branch is taken if its condition holds and skipped otherwise.
-/

namespace LuaBinder.Code

open Text

/-! ### Lines that steer control -/

/-- What stands between two given ends of a text. -/
def between? (front back text : String) : Option String :=
  (afterHead? front.toList text.toList).bind fun rest =>
    (afterHead? back.toList.reverse rest.reverse).map fun middle => String.ofList middle.reverse

lemma between?_eq_some_iff {front back text middle : String} :
    between? front back text = some middle ↔ text = front ++ middle ++ back := by
  rw [between?, Option.bind_eq_some_iff]
  constructor
  · rintro ⟨rest, hrest, h⟩
    obtain ⟨cs, hcs, rfl⟩ := Option.map_eq_some_iff.mp h
    have hfront := afterHead?_eq_some_iff.mp hrest
    have hback := afterHead?_eq_some_iff.mp hcs
    apply String.toList_inj.mp
    rw [hfront, ← List.reverse_reverse rest, hback]
    simp
  · rintro rfl
    refine ⟨middle.toList ++ back.toList, afterHead?_eq_some_iff.mpr (by simp), ?_⟩
    refine Option.map_eq_some_iff.mpr ⟨middle.toList.reverse, ?_, by simp⟩
    exact afterHead?_eq_some_iff.mpr (by simp)

/-- What a line does to control: nothing, the head of a guarded region, a branch under a condition,
a further one, the last one without a condition, a handler, or the end of all of these. -/
inductive Control where
  | statement
  | guarded
  | branch (condition : String)
  | orBranch (condition : String)
  | orElse
  | handler
  | close
  deriving DecidableEq

/-- What the line does to control. -/
def Control.ofLine (text : String) : Control :=
  match between? "if (" ") \x7b" text, between? "\x7d else if (" ") \x7b" text with
  | some condition, _ => .branch condition
  | none, some condition => .orBranch condition
  | none, none =>
    if text = "\x7d else \x7b" then .orElse
    else if (between? "\x7d catch (" ") \x7b" text).isSome then .handler
    else if text = "try \x7b" then .guarded
    else if text = "\x7d" then .close
    else .statement

lemma ofLine_branch (condition : String) :
    Control.ofLine ("if (" ++ condition ++ ") \x7b") = .branch condition := by
  rw [Control.ofLine, between?_eq_some_iff.mpr rfl]

lemma ofLine_orBranch (condition : String) :
    Control.ofLine ("\x7d else if (" ++ condition ++ ") \x7b") = .orBranch condition := by
  have hnone : between? "if (" ") \x7b" ("\x7d else if (" ++ condition ++ ") \x7b") = none := by
    cases h : between? "if (" ") \x7b" ("\x7d else if (" ++ condition ++ ") \x7b") with
    | none => rfl
    | some middle =>
        have hl := congrArg (fun s => s.toList.head?) (between?_eq_some_iff.mp h)
        simp at hl
  rw [Control.ofLine, hnone, between?_eq_some_iff.mpr rfl]

/-- A text that ends with a semicolon ends with nothing else. -/
lemma ne_of_semicolon {text other : String} (h : endsWith ';' text = true)
    (hother : endsWith ';' other = false) : text ≠ other := by
  rintro rfl
  rw [h] at hother
  cases hother

lemma between?_of_semicolon {front text : String} (h : endsWith ';' text = true) :
    between? front ") \x7b" text = none := by
  cases hb : between? front ") \x7b" text with
  | none => rfl
  | some middle =>
      refine absurd (between?_eq_some_iff.mp hb) (ne_of_semicolon h ?_)
      simp [endsWith]

/-- A line that ends with a semicolon is a statement. -/
lemma ofLine_of_semicolon {text : String} (h : endsWith ';' text = true) :
    Control.ofLine text = .statement := by
  have h1 : text ≠ "\x7d else \x7b" := ne_of_semicolon h (by decide)
  have h2 : text ≠ "try \x7b" := ne_of_semicolon h (by decide)
  have h3 : text ≠ "\x7d" := ne_of_semicolon h (by decide)
  rw [Control.ofLine, between?_of_semicolon h, between?_of_semicolon h, between?_of_semicolon h]
  simp [h1, h2, h3]

/-- A text ends as its back does. -/
lemma endsWith_append {c : Char} {back : String} (front : String) (h : endsWith c back = true) :
    endsWith c (front ++ back) = true := by
  rw [endsWith, beq_iff_eq] at *
  rw [String.toList_append, List.getLast?_append, h]
  rfl

/-- What a step does to control, absent for mere layout. -/
def Step.control? : Step → Option Control
  | .line text => some (Control.ofLine text)
  | .lines _ => some .statement
  | .blank => none
  | .comment _ => none
  | .indent => none
  | .dedent => none
  | .block _ _ _ => some .statement

/-- A line that ends with a semicolon is a statement, whatever stands in front. -/
lemma control?_line {back : String} (front : String) (h : endsWith ';' back = true) :
    (Step.line (front ++ back)).control? = some .statement :=
  congrArg some (ofLine_of_semicolon (endsWith_append front h))

/-! ### Following control -/

/-- Where control stands: it runs, it looks for the branch to take, or it leaves the branches behind
the one that it took. -/
inductive Mode where
  | running
  | choosing
  | leaving
  deriving DecidableEq

/-- Where control stands behind a line, given which conditions hold. -/
def Mode.next (holds : String → Bool) : Mode → Control → Mode
  | .running, .branch condition => if holds condition then .running else .choosing
  | .choosing, .orBranch condition => if holds condition then .running else .choosing
  | .choosing, .orElse => .running
  | .running, .orBranch _ => .leaving
  | .running, .orElse => .leaving
  | .running, .handler => .leaving
  | _, .close => .running
  | mode, _ => mode

lemma Mode.next_guarded (holds : String → Bool) (mode : Mode) :
    mode.next holds .guarded = mode := by
  cases mode <;> rfl

/-- The statements that control passes, up to the first that returns. -/
def executed (holds : String → Bool) (returns : Step → Bool) : Mode → List Step → List Step
  | _, [] => []
  | mode, s :: ss =>
    match s.control? with
    | none => executed holds returns mode ss
    | some .statement =>
      if mode = .running then
        if returns s then [s] else s :: executed holds returns mode ss
      else executed holds returns mode ss
    | some control => executed holds returns (mode.next holds control) ss

section Executed

variable {holds : String → Bool} {returns : Step → Bool} {mode : Mode} {s : Step} {ss : List Step}

lemma executed_layout (h : s.control? = none) :
    executed holds returns mode (s :: ss) = executed holds returns mode ss := by
  rw [executed, h]

lemma executed_indent :
    executed holds returns mode (.indent :: ss) = executed holds returns mode ss :=
  executed_layout rfl

lemma executed_dedent :
    executed holds returns mode (.dedent :: ss) = executed holds returns mode ss :=
  executed_layout rfl

lemma executed_return (h : s.control? = some .statement) (hr : returns s = true) :
    executed holds returns .running (s :: ss) = [s] := by
  simp [executed, h, hr]

/-- A line that steers control leaves no trace. -/
lemma executed_line {text : String} {control : Control} (h : Control.ofLine text = control)
    (hc : control ≠ .statement) :
    executed holds returns mode (.line text :: ss)
      = executed holds returns (mode.next holds control) ss := by
  rw [executed, Step.control?, h]
  cases control with
  | statement => exact absurd rfl hc
  | _ => rfl

lemma executed_statement (h : s.control? = some .statement) (hr : returns s = false) :
    executed holds returns .running (s :: ss)
      = s :: executed holds returns .running ss := by
  simp [executed, h, hr]

/-- A statement is skipped where control does not run. -/
lemma executed_skip (hm : mode ≠ .running) (h : s.control? = some .statement) :
    executed holds returns mode (s :: ss) = executed holds returns mode ss := by
  simp [executed, h, hm]

/-- Statements that do not return are passed one by one. -/
lemma executed_append {rest : List Step} (h : ∀ s ∈ ss, s.control? = some .statement)
    (hr : ∀ s ∈ ss, returns s = false) :
    executed holds returns .running (ss ++ rest)
      = ss ++ executed holds returns .running rest := by
  induction ss with
  | nil => rfl
  | cons s ss ih =>
      rw [List.cons_append, List.cons_append,
        executed_statement (h s List.mem_cons_self) (hr s List.mem_cons_self),
        ih (fun x hx => h x (List.mem_cons_of_mem _ hx))
          fun x hx => hr x (List.mem_cons_of_mem _ hx)]

/-- So are all statements of a branch that is not taken. -/
lemma executed_append_of_ne_running {rest : List Step} (hm : mode ≠ .running)
    (h : ∀ s ∈ ss, s.control? = some .statement) :
    executed holds returns mode (ss ++ rest) = executed holds returns mode rest := by
  induction ss with
  | nil => rfl
  | cons s ss ih =>
      rw [List.cons_append, executed_skip hm (h s List.mem_cons_self)]
      exact ih fun x hx => h x (List.mem_cons_of_mem _ hx)

/-! ### Chains of branches -/

/-- The line that opens a branch, the first one of a chain or one behind others. -/
def branchHead (isFirst : Bool) (condition : String) : String :=
  (if isFirst then "if" else "\x7d else if") ++ " (" ++ condition ++ ") \x7b"

/-- Where control stands in front of a branch that is looked at. -/
def Mode.before (isFirst : Bool) : Mode := if isFirst then .running else .choosing

lemma Mode.before_true : Mode.before true = .running := rfl

lemma executed_branchHead (isFirst : Bool) (condition : String) :
    executed holds returns (.before isFirst) (.line (branchHead isFirst condition) :: ss)
      = executed holds returns (if holds condition then .running else .choosing) ss := by
  cases isFirst with
  | true =>
      have hline : branchHead true condition = "if (" ++ condition ++ ") \x7b" := by
        rw [branchHead, if_pos rfl, show "if" ++ " (" = "if (" by decide]
      rw [hline, executed_line (ofLine_branch condition) (by simp)]
      rfl
  | false =>
      have hline : branchHead false condition = "\x7d else if (" ++ condition ++ ") \x7b" := by
        rw [branchHead, if_neg Bool.false_ne_true,
          show "\x7d else if" ++ " (" = "\x7d else if (" by decide]
      rw [hline, executed_line (ofLine_orBranch condition) (by simp)]
      rfl

/-- A branch is taken if its condition holds; otherwise its statements are skipped, and the branch
behind it is looked at. -/
lemma executed_branch (isFirst : Bool) (condition : String) {body rest : List Step}
    (h : ∀ s ∈ body, s.control? = some .statement) :
    executed holds returns (.before isFirst)
        (.line (branchHead isFirst condition) :: .indent :: (body ++ .dedent :: rest))
      = if holds condition then executed holds returns .running (body ++ .dedent :: rest)
        else executed holds returns (.before false) rest := by
  rw [executed_branchHead, executed_indent]
  by_cases hcondition : holds condition = true
  · rw [if_pos hcondition, if_pos hcondition]
  · rw [if_neg hcondition, if_neg hcondition, executed_append_of_ne_running (by simp) h,
      executed_dedent]
    rfl

end Executed

end LuaBinder.Code
