import LuaBinder.Decl.Argument
import LuaBinder.Decl.Error
import LuaBinder.Text.Entity
import LuaBinder.Text.Segments

/-!
Function declarations: members, constructors and free functions.

A function is its declaration markup together with where it was declared. Its arguments, its
return value and its signature are read off the markup; a constructor returns a pointer to its
class whatever the markup gives.

* `Owner`: the class or namespace that declares a function.
* `FunctionDecl.arguments`, `FunctionDecl.result?`: parameters and return value.
* `FunctionDecl.required`: how many arguments a caller must give.
* `overloads`: the functions of a list of declarations, grouped by name.
-/

namespace LuaBinder

open Text

/-! ### Owners -/

/-- Where a function was declared: in a class, which may belong to a namespace, or in a
namespace. -/
inductive Owner where
  | ofClass (name : String) (library : Option String)
  | ofNamespace (name : String)
  deriving DecidableEq

namespace Owner

/-- The name of the class or of the namespace. -/
def name : Owner → String
  | .ofClass name _ => name
  | .ofNamespace name => name

/-- The owner is a class. -/
def isClass : Owner → Bool
  | .ofClass _ _ => true
  | .ofNamespace _ => false

/-- The owner as it is known to a function that outlived it: a class no longer tells which
namespace it belongs to. -/
def forgotten : Owner → Owner
  | .ofClass name _ => .ofClass name none
  | .ofNamespace name => .ofNamespace name

/-- The namespace whose classes the functions of this owner deal with. -/
def library : Owner → String
  | .ofClass _ library => library.getD ""
  | .ofNamespace name => name

end Owner

/-! ### Functions -/

/-- A function declaration. Generated identifiers start with `scope`, and `overload` numbers the
functions of one name where there are several. -/
structure FunctionDecl where
  owner : Option Owner
  name : String
  scope : String
  overload : Option Nat
  node : Element

namespace FunctionDecl

/-- The parameters in declaration order, numbered from one. -/
def arguments (f : FunctionDecl) : List Argument :=
  (f.node.children "param").zipIdx.map fun (param, i) => Argument.ofParam f.name param (i + 1)

/-- The function belongs to a class. -/
def isMember (f : FunctionDecl) : Bool := f.owner.any Owner.isClass

/-- The function has the name of the class it belongs to. -/
def isConstructor (f : FunctionDecl) : Bool :=
  f.owner.any fun owner => owner.isClass && owner.name == f.name

/-- The function needs no object. -/
def isStatic (f : FunctionDecl) : Bool := f.node.attribute? "static" == some "yes"

/-- The return value that the markup declares, absent for blank text and for `void`. -/
def declaredResult? (f : FunctionDecl) : Option Argument :=
  match f.node.child? "type" with
  | none => none
  | some type =>
    if isBlankText type.text then none
    else
      let result := Argument.result f.name type.text
      if result.type.isVoid then none else some result

/-- The return value: a pointer to the class for a constructor, else what is declared. -/
def result? (f : FunctionDecl) : Option Argument :=
  if f.isConstructor then some (Argument.result f.name (f.name ++ " *")) else f.declaredResult?

/-- The name, with the class in front of it for a member. -/
def qualifiedName (f : FunctionDecl) : String :=
  match f.owner with
  | some (.ofClass name _) => name ++ "::" ++ f.name
  | _ => f.name

/-- Some argument may be left out. -/
def hasDefaults (f : FunctionDecl) : Bool := f.arguments.any Argument.hasDefault

/-- Some argument is an array. -/
def hasArrays (f : FunctionDecl) : Bool := f.arguments.any (·.arraySuffix.isSome)

/-- The last argument stands for any number of further ones. -/
def isVariadic (f : FunctionDecl) : Bool := f.arguments.getLast?.any Argument.isVariadic

/-- Number of arguments that a caller must give: those before the first default value and before
a variadic argument. -/
def required (f : FunctionDecl) : Nat :=
  (f.arguments.takeWhile fun a => ! a.hasDefault && ! a.isVariadic).length

/-- The text of the return type. -/
def resultText? (f : FunctionDecl) : Option String := f.result?.map (·.type.text)

/-- The return value is a pointer to scalars. -/
def returnsNativePointer (f : FunctionDecl) : Bool := f.result?.any (·.type.isNativePointer)

/-- Number of path segments that the source of a declaration shows. -/
def sourceSegments : Nat := 3

/-- The end of the path of the declaring file, and the line. -/
def source? (f : FunctionDecl) : Option String := do
  let location ← f.node.child? "location"
  let file ← location.attribute? "file"
  let line ← location.attribute? "line"
  return lastSegments file sourceSegments ++ ":" ++ line

/-- The source of the declaration, an error when the markup does not tell it. -/
def source (f : FunctionDecl) : Except BindingError String :=
  match f.source? with
  | some source => .ok source
  | none => .error (.missingLocation f.qualifiedName)

/-- The signature as the source code wrote it. -/
def signature (f : FunctionDecl) : String :=
  unescape (f.node.childText "definition" ++ f.node.childText "argsstring")

/-- The namespace whose classes the function deals with. -/
def library (f : FunctionDecl) : String :=
  match f.owner with
  | some owner => owner.library
  | none => ""

/-- The function as it is known when its class is gone. -/
def forgetOwner (f : FunctionDecl) : FunctionDecl :=
  { f with owner := f.owner.map Owner.forgotten }

/-- Functions are ordered by their names alone. -/
def compareNames (f g : FunctionDecl) : Ordering := compare f.name g.name

/-- The functions in the order of their names, functions of one name in their given order. -/
def sortByName (fs : List FunctionDecl) : List FunctionDecl :=
  fs.mergeSort fun f g => (compareNames f g).isLE

end FunctionDecl

/-! ### Overloads -/

/-- The elements of a list without repetitions, in the order of their first occurrences. -/
def distinct {α : Type} [BEq α] : List α → List α
  | [] => []
  | a :: as => a :: (distinct as).filter (! · == a)

/-- The elements of a list with one key each, the keys in the order of their first occurrences. -/
def groupByKey {α κ : Type} [BEq κ] (key : α → κ) (as : List α) : List (κ × List α) :=
  (distinct (as.map key)).map fun k => (k, as.filter fun a => key a == k)

/-- The name that a declaration gives to its function. -/
def declaredName (node : Element) : String := trim (node.childText "name")

/-- The functions of one name, numbered from one when there are several. -/
def numbered (owner : Owner) (scope name : String) (nodes : List Element) : List FunctionDecl :=
  nodes.zipIdx.map fun (node, i) =>
    { owner := some owner, name, scope, node
      overload := if nodes.length > 1 then some (i + 1) else none }

/-- The functions that an owner declares, grouped by name in declaration order. -/
def overloads (owner : Owner) (nodes : List Element) : List (String × List FunctionDecl) :=
  (groupByKey declaredName nodes).map fun (name, group) =>
    (name, numbered owner owner.name name group)

end LuaBinder
