import LuaBinder.Text.Lines

/-!
Indented source code, written line by line.

* `Step`: one thing to write; a block holds the steps between its two lines.
* `Builder.run`: the effect of steps on a builder, which is an indent style, a level and the text
  so far.
* `Builder.trace`: the texts after every step, those of a block before the block itself.
* `render`: the text of steps in a fresh builder.
-/

namespace LuaBinder.Code

open Text

/-- What one level of indentation is written as. -/
inductive IndentStyle where
  | spaces
  | tab
  deriving DecidableEq

/-- Two spaces, or a tab. -/
def IndentStyle.unit : IndentStyle → String
  | .spaces => "  "
  | .tab => "\t"

/-- One thing to write. -/
inductive Step where
  | line (text : String)
  | lines (text : String)
  | blank
  | comment (rows : List String)
  | indent
  | dedent
  | block (header close : String) (steps : List Step)
  deriving Inhabited

/-- The text written so far and the level of the next line. -/
structure Builder where
  style : IndentStyle
  level : Nat := 0
  text : String := ""

namespace Builder

/-- The indentation of the next line. -/
def margin (b : Builder) : String := String.join (List.replicate b.level b.style.unit)

/-- A line of code at the current level, empty text included. -/
def line (b : Builder) (text : String) : Builder :=
  { b with text := b.text ++ b.margin ++ text ++ "\n" }

/-- An empty line without indentation. -/
def blank (b : Builder) : Builder := { b with text := b.text ++ "\n" }

/-- One line of a longer text; an empty one gets no indentation. -/
def row (b : Builder) (text : String) : Builder := if text.isEmpty then b.blank else b.line text

/-- Every line of a text at the current level. -/
def lines (b : Builder) (text : String) : Builder := (Text.lines text).foldl row b

/-- One level deeper. -/
def indent (b : Builder) : Builder := { b with level := b.level + 1 }

/-- One level back, the outermost level stays. -/
def dedent (b : Builder) : Builder := { b with level := b.level - 1 }

/-- A block comment with a line for every row but the closing one; one row makes one line, and no
row makes none. -/
def comment (b : Builder) : List String → Builder
  | [] => b
  | [single] => b.line ("/** " ++ single ++ " */")
  | first :: rest =>
    (rest.foldl (fun b row => b.line (" * " ++ row)) (b.line ("/** " ++ first))).line " */"

mutual

/-- The builder after one step. -/
def step (b : Builder) : Step → Builder
  | .line text => b.line text
  | .lines text => b.lines text
  | .blank => b.blank
  | .comment rows => b.comment rows
  | .indent => b.indent
  | .dedent => b.dedent
  | .block header close steps => ((run (b.line header).indent steps).dedent).line close

/-- The builder after a list of steps. -/
def run (b : Builder) : List Step → Builder
  | [] => b
  | s :: ss => run (b.step s) ss

end

mutual

/-- The texts after the steps inside a step, then the text after the step. -/
def traceStep (b : Builder) : Step → List String
  | .block header close steps =>
    trace (b.line header).indent steps ++ [(b.step (.block header close steps)).text]
  | .line text => [(b.line text).text]
  | .lines text => [(b.lines text).text]
  | .blank => [b.blank.text]
  | .comment rows => [(b.comment rows).text]
  | .indent => [b.indent.text]
  | .dedent => [b.dedent.text]

/-- The texts after every step of a list. -/
def trace (b : Builder) : List Step → List String
  | [] => []
  | s :: ss => b.traceStep s ++ trace (b.step s) ss

end

end Builder

/-- The text of steps in a fresh builder that indents with spaces. -/
def render (steps : List Step) : String :=
  (Builder.run ({ style := .spaces } : Builder) steps).text

end LuaBinder.Code
