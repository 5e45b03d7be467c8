import LuaBinder.Code.Table
import LuaBinder.Lua.Chooser
import LuaBinder.Lua.Include
import LuaBinder.Lua.SupportHeader

/-!
Binding sources: one file for every class and one for the free functions of a namespace.

* `Fragment`: a function or a chooser as a part of a file.
* `fragments`, `memberRows`: the wrappers and choosers of a member list, and its table rows.
* `ClassFile.ofClass`, `ClassFile.steps`: the binding source of a class.
* `NamespaceFile.ofNamespace`, `NamespaceFile.steps`: that of a namespace.
* `renderer`: binding sources as a renderer of classes and namespaces.
-/

namespace LuaBinder.Lua

open Code Text

/-! ### Parts of a file -/

/-- The version that generated files name. -/
def version : String := "0.3.0"

/-- The table that classes outside of a namespace register in. -/
def globalTable : String := "_G"

/-- The comment at the top of a generated file. -/
def banner (subject : String) : String :=
  "/**\n *\n * MACHINE GENERATED FILE. DO NOT EDIT.\n *\n * " ++ subject
    ++ "\n *\n * This file has been generated by dub " ++ version ++ ".\n */"

/-- The end of the name of the function that opens a library. -/
def openName (registryName : String) : String :=
  String.ofList (registryName.toList.map fun c => if c == '.' then '_' else c)

/-- The line that includes a header. -/
def includeLine (path : String) : Step := .line ("#include \"" ++ path ++ "\"")

/-- A part of a file: the text of a function, or a chooser, which is absent when there is nothing
to choose from. -/
inductive Fragment where
  | function (text : String)
  | chooser (chooser? : Option Chooser)

/-- The text of a part. -/
def Fragment.text : Fragment → String
  | .function text => text
  | .chooser none => ""
  | .chooser (some c) => c.text

/-- A part with an empty line behind it. -/
def fragmentSteps (part : Fragment) : List Step := [.lines part.text, .blank]

/-- Some functions, then the chooser between them. -/
def overloadFragments (resolve : Resolver) (functions : List FunctionDecl) :
    Except BindingError (List Fragment) := do
  let texts ← functions.mapM (renderWith resolve)
  let chooser? ← Chooser.ofOverloads functions
  return texts.map .function ++ [.chooser chooser?]

/-- The parts of a slot: the function itself, or the overloads and their chooser. -/
def slotFragments (resolve : Resolver) : Member FunctionDecl → Except BindingError (List Fragment)
  | .leaf f => (renderWith resolve f).map fun text => [.function text]
  | .group members => overloadFragments resolve (Member.leavesAll members)

/-- The parts of a member list. -/
def fragments (resolve : Resolver) (members : List (Member FunctionDecl)) :
    Except BindingError (List Fragment) :=
  (members.mapM (slotFragments resolve)).map List.flatten

/-- The rows of a slot: the function itself, or the chooser of a group. A slot without functions
has none. -/
def slotRows (resolve : Resolver) (m : Member FunctionDecl) : Except BindingError (List Row) :=
  match m.first? with
  | none => .ok []
  | some f =>
    (identifierWith resolve f (if m.isGroup then some 0 else none)).map fun identifier =>
      [{ name := f.name, identifier }]

/-- The rows of a member list. -/
def memberRows (resolve : Resolver) (members : List (Member FunctionDecl)) :
    Except BindingError (List Row) :=
  (members.mapM (slotRows resolve)).map List.flatten

/-- A table with its rows and the row that ends it. -/
def tableSteps (header ending : String) (rows : List Row) : List Step :=
  [.line header, .indent] ++ tableRows rows ++ [.line ending, .dedent, .line "\x7d;", .blank]

/-- A table of functions. -/
def functionTable (name : String) (rows : List Row) : List Step :=
  tableSteps ("static const struct luaL_Reg " ++ name ++ "[] = \x7b") "\x7b NULL, NULL \x7d," rows

/-! ### Class files -/

/-- The rows of the methods of an object, without those that all classes share. -/
def methodRows (o : Options) (resolve : Resolver) (c : ClassDecl) :
    Except BindingError (List Row) := do
  let rows ← memberRows resolve ((keptMembers o c.members).getD [])
  return rows ++ [⟨"__tostring", c.tostringName⟩, ⟨"__gc", c.destructorName⟩]

/-- The row that all classes share. -/
def deletedRow : Row := ⟨"deleted", "dub_isDeleted"⟩

/-- The rows that make the class and its aliases callable, none without a constructor. -/
def constructorRows (o : Options) (resolve : Resolver) (c : ClassDecl) :
    Except BindingError (List Row) :=
  match keptConstructors o c with
  | [] => .ok []
  | f :: _ =>
    (identifierWith resolve f (some 0)).map fun identifier =>
      (c.name :: c.aliases).map fun name => { name, identifier }

/-- The rows of the enumerators of a class. -/
def constantRows (c : ClassDecl) : List Row :=
  c.constants.map fun constant => ⟨constant, c.name ++ "::" ++ constant⟩

/-- The parts of the constructors: one that never had a sibling stands alone. -/
def constructorFragments (o : Options) (resolve : Resolver) (c : ClassDecl) :
    Except BindingError (List Fragment) :=
  match keptConstructors o c with
  | [] => .ok []
  | [single] =>
    if single.overload.isNone then (renderWith resolve single).map fun text => [.function text]
    else overloadFragments resolve [single]
  | overloads => overloadFragments resolve overloads

/-- The binding source of a class. -/
structure ClassFile where
  name : String
  library : Option String
  registryName : String
  include? : Option String
  constructors : List Fragment
  members : List Fragment
  destructorName : String
  tostringName : String
  methods : List Row
  constants : List Row
  creators : List Row

namespace ClassFile

/-- The binding source of a class, or the first error of one of its functions. -/
def ofClass (o : Options) (resolve : Resolver) (c : ClassDecl) :
    Except BindingError ClassFile := do
  let constructors ← constructorFragments o resolve c
  let members ← fragments resolve ((keptMembers o c.members).getD [])
  let methods ← methodRows o resolve c
  let creators ← constructorRows o resolve c
  return {
    name := c.name
    library := c.library
    registryName := c.registryName
    include? := c.header?.map o.includePath
    constructors
    members
    destructorName := c.destructorName
    tostringName := c.tostringName
    methods := methods ++ [deletedRow]
    constants := constantRows c
    creators }

/-- The statement that reads the userdata of an object. -/
def userdataLine (file : ClassFile) : Step :=
  .line ("DubUserdata *userdata = (DubUserdata *)luaL_checkudata(L, 1, \""
    ++ file.registryName ++ "\");")

/-- The function that deletes an object, and the one that makes a text of it. -/
def hookSteps (file : ClassFile) : List Step :=
  [.block (definitionLine file.destructorName) "\x7d"
    [file.userdataLine,
     .line ("if (userdata->gc && userdata->ptr) delete (" ++ file.name ++ " *)userdata->ptr;"),
     .line "userdata->ptr = NULL;",
     .line "return 0;"],
   .blank,
   .block (definitionLine file.tostringName) "\x7d"
    [file.userdataLine,
     .block "if (!userdata->ptr) \x7b" "\x7d"
      [.line ("lua_pushstring(L, \"<" ++ file.registryName ++ ": NULL>\");"),
       .line "return 1;"],
     .line ("lua_pushfstring(L, \"<" ++ file.registryName ++ ": %p>\", userdata->ptr);"),
     .line "return 1;"],
   .blank]

/-- The table of the enumerators, absent when there are none. -/
def constantSteps (file : ClassFile) : List Step :=
  if file.constants.isEmpty then []
  else
    tableSteps ("static const struct dub_const_Reg " ++ file.name ++ "_const[] = \x7b")
      "\x7b NULL, 0 \x7d," file.constants

/-- The function that registers the class. -/
def openSteps (file : ClassFile) : List Step :=
  [.block ("extern \"C\" int luaopen_" ++ openName file.registryName ++ "(lua_State *L) \x7b")
    "\x7d"
    ([.line "// Create the metatable which will contain all the member methods",
      .line ("luaL_newmetatable(L, \"" ++ file.registryName ++ "\");"),
      .blank,
      .line "// metatable.__index = metatable (find methods in the table itself)",
      .line "lua_pushvalue(L, -1);",
      .line "lua_setfield(L, -2, \"__index\");",
      .blank]
    ++ (if file.constants.isEmpty then []
        else
          [.line "// register class constants",
           .line ("dub_register_const(L, " ++ file.name ++ "_const);"),
           .blank])
    ++ [.line "// register member methods",
        .line ("luaL_register(L, NULL, " ++ file.name ++ "_member_methods);"),
        .blank,
        .line "// register class methods in the namespace table",
        .line ("luaL_register(L, \"" ++ file.library.getD globalTable ++ "\", "
          ++ file.name ++ "_namespace_methods);"),
        .line "return 1;"])]

/-- The lines above the first function. -/
def headSteps (file : ClassFile) : List Step :=
  [.lines (banner ("Bindings for class " ++ file.name)), includeLine supportHeaderPath]
    ++ (file.include?.map includeLine).toList
    ++ [.blank]
    ++ match file.library with
       | some library => [.line ("using namespace " ++ library ++ ";"), .blank]
       | none => []

/-- The code of the file. -/
def steps (file : ClassFile) : List Step :=
  file.headSteps
    ++ file.constructors.flatMap fragmentSteps
    ++ file.hookSteps
    ++ file.members.flatMap fragmentSteps
    ++ functionTable (file.name ++ "_member_methods") file.methods
    ++ file.constantSteps
    ++ functionTable (file.name ++ "_namespace_methods") file.creators
    ++ file.openSteps

/-- The text of the file. -/
def text (file : ClassFile) : String := render file.steps

end ClassFile

/-! ### Namespace files -/

/-- The include paths of the headers that declare some functions, each path once. -/
def includesOf (o : Options) (functions : List FunctionDecl) : List String :=
  distinct <| functions.filterMap fun f =>
    ((f.node.child? "location").bind (·.attribute? "file")).map o.includePath

/-- The binding source of the free functions of a namespace. -/
structure NamespaceFile where
  name : String
  includes : List String
  functions : List Fragment
  rows : List Row

namespace NamespaceFile

/-- The binding source of a namespace, or the first error of one of its functions. -/
def ofNamespace (o : Options) (resolve : Resolver) (n : NamespaceDecl) :
    Except BindingError NamespaceFile := do
  let kept := (keptMembers o n.functions).getD []
  let functions ← fragments resolve kept
  let rows ← memberRows resolve kept
  return { name := n.name, includes := includesOf o (Member.leavesAll kept), functions, rows }

/-- The code of the file. -/
def steps (file : NamespaceFile) : List Step :=
  [.lines (banner ("Bindings for namespace " ++ file.name)), includeLine supportHeaderPath]
    ++ file.includes.map includeLine
    ++ [.blank, .line ("using namespace " ++ file.name ++ ";"), .blank]
    ++ file.functions.flatMap fragmentSteps
    ++ functionTable (file.name ++ "_functions") file.rows
    ++ [.block ("extern \"C\" int luaopen_" ++ openName file.name ++ "(lua_State *L) \x7b") "\x7d"
          [.line ("luaL_register(L, \"" ++ file.name ++ "\", " ++ file.name ++ "_functions);"),
           .line "return 1;"]]

/-- The text of the file. -/
def text (file : NamespaceFile) : String := render file.steps

end NamespaceFile

/-- Binding sources as a renderer of classes and namespaces. -/
def renderer (o : Options) : Renderer where
  renderClass resolve c := (ClassFile.ofClass o resolve c).map ClassFile.text
  renderNamespace resolve n := (NamespaceFile.ofNamespace o resolve n).map NamespaceFile.text
  functions := wrappers

end LuaBinder.Lua
