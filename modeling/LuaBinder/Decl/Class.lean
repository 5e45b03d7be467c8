import LuaBinder.Decl.Function
import LuaBinder.Decl.Member

/-!
Classes and namespaces.

* `ClassSource`: what a class is made from.
* `ClassDecl.ofSource`: the class with its constructors and its members, where the functions of
  one name share a slot.
* `NamespaceDecl.ofSources`: a namespace with its classes and its free functions.
-/

namespace LuaBinder

/-! ### Slots -/

/-- The slot of the functions of one name: a leaf for one function, a group for several. -/
def slot (functions : List FunctionDecl) : Member FunctionDecl :=
  match functions with
  | [f] => .leaf f
  | fs => .group (fs.map .leaf)

/-! ### Classes -/

/-- What a class is made from: its compound element and the declarations of its functions. -/
structure ClassSource where
  name : String
  node : Element
  members : List Element := []
  aliases : List String := []
  constants : List String := []

/-- A class with its functions. -/
structure ClassDecl where
  name : String
  library : Option String
  node : Element
  aliases : List String
  constants : List String
  constructors : List FunctionDecl
  members : List (Member FunctionDecl)

namespace ClassDecl

/-- The class that a source describes, as a class of the namespace `library`. -/
def ofSource (library : Option String) (source : ClassSource) : ClassDecl :=
  let groups := overloads (.ofClass source.name library) source.members
  { name := source.name
    library
    node := source.node
    aliases := source.aliases
    constants := source.constants
    constructors := (groups.filter (·.1 == source.name)).flatMap (·.2)
    members := (groups.filter (·.1 != source.name)).map fun (_, fs) => slot fs }

/-- The constructor that was declared first. -/
def constructor? (c : ClassDecl) : Option FunctionDecl := c.constructors.head?

/-- All functions, constructors first. -/
def functions (c : ClassDecl) : List FunctionDecl :=
  c.constructors ++ Member.leavesAll c.members

/-- The slot of the members with a name. -/
def member? (c : ClassDecl) (name : String) : Option (Member FunctionDecl) :=
  c.members.find? fun m => m.first?.any (·.name == name)

/-- The identifier of the function that makes a text of an object. -/
def tostringName (c : ClassDecl) : String := c.name ++ "__tostring"

/-- The identifier of the function that deletes an object. -/
def destructorName (c : ClassDecl) : String := c.name ++ "_destructor"

/-- The name under which the class is registered. -/
def registryName (c : ClassDecl) : String :=
  match c.library with
  | some library => library ++ "." ++ c.name
  | none => c.name

/-- The header that declares the class. -/
def header? (c : ClassDecl) : Option String :=
  (c.node.child? "location").bind (·.attribute? "file")

end ClassDecl

/-! ### Namespaces -/

/-- A namespace with its classes and its free functions. -/
structure NamespaceDecl where
  name : String
  classes : List ClassDecl
  functions : List (Member FunctionDecl)

namespace NamespaceDecl

/-- The namespace of the given classes and free functions. -/
def ofSources (name : String) (classes : List ClassSource) (functions : List Element) :
    NamespaceDecl :=
  { name
    classes := classes.map (ClassDecl.ofSource (some name))
    functions := (overloads (.ofNamespace name) functions).map fun (_, fs) => slot fs }

/-- The first class with a name. -/
def class? (n : NamespaceDecl) (name : String) : Option ClassDecl :=
  n.classes.find? (·.name == name)

/-- The free functions in order, groups dissolved. -/
def freeFunctions (n : NamespaceDecl) : List FunctionDecl := Member.leavesAll n.functions

/-- All functions: those of the classes in order, then the free ones. -/
def allFunctions (n : NamespaceDecl) : List FunctionDecl :=
  n.classes.flatMap ClassDecl.functions ++ n.freeFunctions

end NamespaceDecl

end LuaBinder
