import LuaBinder.Decl.Class
import LuaBinder.Store.FileSystem
import LuaBinder.Xml.Document

/-!
Directories of doxygen output: an index of compounds and one document for every compound.

* `withoutLayout`: markup without the white space that only indents it.
* `index`, `compound`: the entries of the index, and the element of a compound.
* `loadNamespace`: a namespace with its public classes, their public functions and enumerators,
  its free functions, and the type aliases of its classes.
-/

namespace LuaBinder.Doxygen

open Store Text

/-! ### Errors -/

/-- Why doxygen output could not be loaded. -/
inductive LoadError where
  | unreadable (path : String)
  | malformed (path : String)
  | missingCompound (kind name : String)
  deriving DecidableEq

namespace LoadError

/-- The error in words. -/
def message : LoadError → String
  | .unreadable path => "failed to read '" ++ path ++ "'"
  | .malformed path => "invalid XML in '" ++ path ++ "'"
  | .missingCompound kind name =>
    "no " ++ kind ++ " compound named '" ++ name ++ "' in the doxygen index"

/-- The identifier of the kind of error. -/
def code : LoadError → String
  | .unreadable _ => "dub::doxygen::io"
  | .malformed _ => "dub::doxygen::xml"
  | .missingCompound _ _ => "dub::doxygen::missing_compound"

/-- What the user can do about the error. -/
def help? : LoadError → Option String
  | .unreadable _ =>
    some "generate the XML first: set GENERATE_XML = YES in your Doxyfile and run doxygen"
  | .malformed _ => none
  | .missingCompound _ _ =>
    some "check the namespace name, or run 'dub list' to see what was found"

end LoadError

/-! ### Documents -/

/-- A text run that only lays out the markup around it: blank, over more than one line. -/
def isLayout (run : String) : Bool := run.toList.contains '\n' && isBlankText run

mutual

/-- A piece of content without layout inside it, absent when it is layout itself. -/
def stripLayout : Markup → Option Markup
  | .text run => if isLayout run then none else some (.text run)
  | .element tag attributes content => some (.element tag attributes (stripLayouts content))

/-- A list of content without layout. -/
def stripLayouts : List Markup → List Markup
  | [] => []
  | m :: ms =>
    match stripLayout m with
    | some m => m :: stripLayouts ms
    | none => stripLayouts ms

end

/-- An element without the layout below it. -/
def withoutLayout (e : Element) : Element := { e with content := stripLayouts e.content }

/-- The root element of a document. -/
def parseDocument? (text : String) : Option Element := (Xml.parse? text).map withoutLayout

/-- The root element of the document at a path. -/
def readDocument (fs : FileSystem) (path : String) : Except LoadError Element :=
  match fs.read? path with
  | none => .error (.unreadable path)
  | some text =>
    match parseDocument? text with
    | none => .error (.malformed path)
    | some root => .ok root

/-! ### Compounds -/

/-- An entry of the index. -/
structure CompoundEntry where
  refid : String
  kind : String
  name : String
  deriving DecidableEq

/-- The entry that an element of the index describes. -/
def CompoundEntry.ofElement? (e : Element) : Option CompoundEntry := do
  let refid ← e.attribute? "refid"
  let kind ← e.attribute? "kind"
  return { refid, kind, name := trim (e.childText "name") }

/-- The entries of the index, in document order. -/
def index (fs : FileSystem) (root : String) : Except LoadError (List CompoundEntry) :=
  (readDocument fs (join root "index.xml")).map fun document =>
    (document.children "compound").filterMap CompoundEntry.ofElement?

/-- The entries of the namespaces. -/
def namespaceEntries (entries : List CompoundEntry) : List CompoundEntry :=
  entries.filter (·.kind == "namespace")

/-- The names of the namespaces, in document order. -/
def namespaces (fs : FileSystem) (root : String) : Except LoadError (List String) :=
  (index fs root).map fun entries => (namespaceEntries entries).map (·.name)

/-- The definition of a compound. -/
def compound (fs : FileSystem) (root refid : String) : Except LoadError Element := do
  let document ← readDocument fs (join root (refid ++ ".xml"))
  match document.child? "compounddef" with
  | some definition => return definition
  | none => .error (.missingCompound "compounddef" refid)

/-! ### Declarations of a compound -/

/-- The declaration is public, which it is when it does not say. -/
def isPublic (e : Element) : Bool := (e.attribute? "prot").all (· == "public")

/-- The member declarations of a kind, in document order. -/
def memberDefs (definition : Element) (kind : String) : List Element :=
  ((definition.children "sectiondef").flatMap (·.children "memberdef")).filter
    (·.attribute? "kind" == some kind)

/-- A parameter list of one `void` declares no parameter. -/
def isVoidParam (e : Element) : Bool :=
  e.tag == "param" && trim (e.childText "type") == "void" && (e.child? "declname").isNone

/-- A declaration without its `void` parameters. -/
def stripVoidParams (e : Element) : Element :=
  { e with content := e.content.filter fun m => ! m.element?.any isVoidParam }

/-- The public functions, in document order. -/
def publicFunctions (definition : Element) : List Element :=
  ((memberDefs definition "function").filter isPublic).map stripVoidParams

/-- The names of the enumerators of public enumerations, in document order. -/
def publicConstants (definition : Element) : List String :=
  (((memberDefs definition "enum").filter isPublic).flatMap (·.children "enumvalue")).filterMap
    fun value => nonBlank? (value.childText "name")

/-- The last segment of a qualified name. -/
def shortName (qualified : String) : String := lastName (trim qualified)

/-- An element without its sections. -/
def withoutSections (e : Element) : Element :=
  { e with content := e.content.filter fun m => ! m.element?.any (·.tag == "sectiondef") }

/-- The class that a definition describes, absent for a template. -/
def classOf? (definition : Element) : Option ClassSource :=
  let name := shortName (definition.childText "compoundname")
  if name.toList.contains '<' then none
  else
    some {
      name
      node := withoutSections definition
      members := publicFunctions definition
      constants := publicConstants definition }

/-- The classes with a further alias for the first one of the given name. -/
def addAlias (target name : String) : List ClassSource → List ClassSource
  | [] => []
  | c :: cs =>
    if c.name == target then { c with aliases := c.aliases ++ [name] } :: cs
    else c :: addAlias target name cs

/-- The classes with the alias that a type definition declares. -/
def resolveAlias (classes : List ClassSource) (typedef : Element) : List ClassSource :=
  addAlias (shortName (typedef.childText "type")) (trim (typedef.childText "name")) classes

/-! ### Namespaces -/

/-- The classes of some definitions, or the first error. -/
def loadClasses (fs : FileSystem) (root : String) :
    List String → Except LoadError (List ClassSource)
  | [] => .ok []
  | refid :: refids => do
    let definition ← compound fs root refid
    let classes ← loadClasses fs root refids
    return (classOf? definition).toList ++ classes

/-- The compounds of the public classes of a namespace. -/
def innerClasses (definition : Element) : List String :=
  ((definition.children "innerclass").filter isPublic).filterMap (·.attribute? "refid")

/-- The first namespace of a name, or of any name when none is given. -/
def findNamespace? (name : Option String) (entries : List CompoundEntry) :
    Option CompoundEntry :=
  (namespaceEntries entries).find? fun entry => name.all (entry.name == ·)

/-- The namespace of a name, or the first one of the index when no name is given. -/
def loadNamespace (fs : FileSystem) (root : String) (name : Option String) :
    Except LoadError NamespaceDecl := do
  let entries ← index fs root
  match findNamespace? name entries with
  | none => .error (.missingCompound "namespace" (name.getD "*"))
  | some entry => do
    let definition ← compound fs root entry.refid
    let classes ← loadClasses fs root (innerClasses definition)
    let classes := (memberDefs definition "typedef").foldl resolveAlias classes
    return NamespaceDecl.ofSources entry.name classes (publicFunctions definition)

end LuaBinder.Doxygen
