import LuaBinder.Report.Settings
import LuaBinder.Report.Sheet

/-!
Listings: what the bindings of a namespace contain.

* `Listing.ofNamespace`, `list`: the listing of a namespace, and that of the configured one.
* `Listing.sheet`: the listing as a report.
-/

namespace LuaBinder

open Store

/-- A class with its bound members. Overloads count as one member, under their common name. -/
structure ClassListing where
  name : String
  aliases : List String
  constructor : Option String
  members : List String
  deriving DecidableEq

/-- What the bindings of a namespace contain and what they leave out. -/
structure Listing where
  name : String
  classes : List ClassListing
  functions : List String
  ignored : List (String × String)
  deriving DecidableEq

/-- The names of the functions of a member list that get bindings. -/
def boundNames (o : Lua.Options) (members : List (Member FunctionDecl)) : List String :=
  ((Lua.keptMembers o members).getD []).filterMap fun m => m.first?.map (·.name)

/-- The listing of a class. -/
def ClassListing.ofClass (o : Lua.Options) (c : ClassDecl) : ClassListing where
  name := c.name
  aliases := c.aliases
  constructor := (Lua.keptConstructors o c).head?.map (Lua.identifier · (some 0))
  members := boundNames o c.members

/-- The items of a section under its heading, nothing without items. -/
def sectionSheet (heading : String) (items : Sheet) : Sheet :=
  if items.isEmpty then [] else .gap :: .heading heading :: items

/-- The functions left out, each with its reason. -/
def excludedItems (ignored : List (String × String)) : Sheet :=
  ignored.map fun (name, reason) => .excluded name reason

/-- The listing of a class as a part of a report. -/
def ClassListing.sheet (c : ClassListing) : Sheet :=
  [.gap, .heading c.name]
    ++ (if c.aliases.isEmpty then []
        else [.indentedPair "aliases" (String.intercalate ", " c.aliases)])
    ++ [.indentedPair "constructor" (c.constructor.getD "(none)")]
    ++ c.members.map .bullet

namespace Listing

/-- The listing of a namespace. -/
def ofNamespace (o : Lua.Options) (n : NamespaceDecl) : Listing where
  name := n.name
  classes := n.classes.map (ClassListing.ofClass o)
  functions := boundNames o n.functions
  ignored := ignoredNames o n

/-- The listing as a report. -/
def sheet (l : Listing) : Sheet :=
  .title l.name :: l.classes.flatMap ClassListing.sheet
    ++ sectionSheet "Functions" (l.functions.map .bullet)
    ++ sectionSheet "Ignored" (excludedItems l.ignored)

end Listing

/-- The listing of the configured namespace. -/
def list (fs : FileSystem) (s : Settings) : Except RunError Listing :=
  (s.load fs).map (Listing.ofNamespace s.options)

end LuaBinder
