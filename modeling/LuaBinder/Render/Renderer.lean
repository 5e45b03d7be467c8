import LuaBinder.Decl.Class

/-!
What a binding target provides, and how a function finds its renderer.

* `FunctionRenderer`: writes single functions and names them.
* `Renderer`: writes whole classes and namespaces, given the renderer of each function.
* `renderWith`, `identifierWith`: a function through the renderer that a resolver gives it.
-/

namespace LuaBinder

/-- Writes single functions and resolves their identifiers. An index given to `identifier` wins
over the overload number of the function. -/
structure FunctionRenderer where
  render : FunctionDecl → Except BindingError String
  identifier : FunctionDecl → Option Nat → String

/-- The renderer of every function in sight. -/
abbrev Resolver := FunctionDecl → Option FunctionRenderer

/-- Writes the binding sources of classes and namespaces. -/
structure Renderer where
  renderClass : Resolver → ClassDecl → Except BindingError String
  renderNamespace : Resolver → NamespaceDecl → Except BindingError String
  functions : FunctionRenderer

/-- The renderer of a function, an error when it has none. -/
def requireRenderer (resolve : Resolver) (f : FunctionDecl) :
    Except BindingError FunctionRenderer :=
  match resolve f with
  | some r => .ok r
  | none => .error (.unboundRenderer f.qualifiedName)

/-- The text of a function through its renderer. -/
def renderWith (resolve : Resolver) (f : FunctionDecl) : Except BindingError String := do
  let r ← requireRenderer resolve f
  r.render f

/-- The identifier of a function through its renderer. -/
def identifierWith (resolve : Resolver) (f : FunctionDecl) (index : Option Nat) :
    Except BindingError String := do
  let r ← requireRenderer resolve f
  return r.identifier f index

end LuaBinder
