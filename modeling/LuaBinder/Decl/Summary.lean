import LuaBinder.Decl.Class
import LuaBinder.Text.Quoted

/-!
One-line summaries of declarations: the name and the argument types of a function, and the
nesting of the functions of a class or a namespace.
-/

namespace LuaBinder

open Text

/-- Texts between brackets, separated by commas. -/
def bracketed (texts : List String) : String := "[" ++ String.intercalate ", " texts ++ "]"

/-- The identifier of a function and the types of its arguments. -/
def FunctionDecl.summary (f : FunctionDecl) : String :=
  "Function " ++ f.scope ++ "_" ++ f.name
    ++ "(" ++ String.intercalate ", " (f.arguments.map (·.type.text)) ++ ")"

namespace Member

variable {α : Type}

mutual

/-- The nesting of a node, its members written by `write`. -/
def summary (write : α → String) : Member α → String
  | .leaf member => "Leaf(" ++ write member ++ ")"
  | .group members => "Group(" ++ bracketed (summaries write members) ++ ")"

/-- The nesting of every node of a list. -/
def summaries (write : α → String) : List (Member α) → List String
  | [] => []
  | m :: ms => m.summary write :: summaries write ms

end

end Member

/-- The names, constructors and members of a class. -/
def ClassDecl.summary (c : ClassDecl) : String :=
  "Klass \x7b name: " ++ quote c.name
    ++ ", alias_names: " ++ bracketed (c.aliases.map quote)
    ++ ", constructors: " ++ bracketed (c.constructors.map FunctionDecl.summary)
    ++ ", members: " ++ bracketed (Member.summaries FunctionDecl.summary c.members)
    ++ ", .. \x7d"

/-- The name, classes and free functions of a namespace. -/
def NamespaceDecl.summary (n : NamespaceDecl) : String :=
  "Namespace \x7b name: " ++ quote n.name
    ++ ", classes: " ++ bracketed (n.classes.map ClassDecl.summary)
    ++ ", functions: " ++ bracketed (Member.summaries FunctionDecl.summary n.functions)
    ++ ", .. \x7d"

end LuaBinder
