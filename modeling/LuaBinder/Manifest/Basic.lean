import LuaBinder.Manifest.Error
import LuaBinder.Store.FileSystem
import LuaBinder.Text.Blank
import LuaBinder.Text.Segments
import LuaBinder.Toml.Document

/-!
Manifests: what to bind, where the declarations come from and where the bindings go.

A manifest is the table `bindings` of a configuration document. The table has no names but those
of the settings. The settings may also be listed in order, the first five of them at least; what is
listed behind the last one is not looked at. The rest of the document does not matter either, but
for its numbers, which must have values.

* `Language`, `Manifest`: the settings with their defaults.
* `Manifest.parse`: the manifest of a text, checked.
* `ManifestFile`: a manifest with its path, from which its own paths start.
-/

namespace LuaBinder

open Text Toml Store

/-! ### Languages -/

/-- The languages that bindings can be written for. -/
inductive Language where
  | lua
  deriving DecidableEq

/-- The name of a language. -/
def Language.name : Language → String
  | .lua => "lua"

/-- A name that no language has. -/
structure UnknownLanguage where
  name : String
  deriving DecidableEq

/-- The error in words. -/
def UnknownLanguage.message (e : UnknownLanguage) : String :=
  "unknown language '" ++ e.name ++ "', expected 'lua'"

/-- The language of a name in letters of any case. Only the case of ASCII letters matters: no
other letter becomes one of the three in lower case. -/
def Language.ofName (name : String) : Except UnknownLanguage Language :=
  if name.toList.map Char.toLower = Language.lua.name.toList then .ok .lua else .error ⟨name⟩

/-! ### Manifests -/

/-- What to bind, where the declarations come from and where the bindings go. -/
structure Manifest where
  name : String
  language : Language := .lua
  input : String := "doc/xml"
  output : String := "bind"
  headerBase : Option String := none
  ignore : List String := []
  deriving DecidableEq

namespace Manifest

/-- The text of a string value. -/
def string? : Value → Option String
  | .string text => some text
  | _ => none

/-- The texts of an array of strings. -/
def strings? : Value → Option (List String)
  | .array items => items.mapM string?
  | _ => none

/-- An array or a table without content. -/
def isHollow : Value → Bool
  | .array [] => true
  | .table _ [] => true
  | _ => false

/-- The language that a value names: as a string in lower case, or as the only name of a table
whose value is hollow. -/
def language? : Value → Option Language
  | .string name => if name = Language.lua.name then some .lua else none
  | .table _ [(name, value)] =>
    if name = Language.lua.name ∧ isHollow value then some .lua else none
  | _ => none

/-- The names that the table may hold, in the order in which an array lists them. -/
def fieldNames : List String := ["name", "language", "input", "output", "header_base", "ignore"]

/-- The manifest with one setting more. -/
def set? (m : Manifest) (field : String) (value : Value) : Option Manifest :=
  match field with
  | "name" => (string? value).map fun name => { m with name }
  | "language" => (language? value).map fun language => { m with language }
  | "input" => (string? value).map fun input => { m with input }
  | "output" => (string? value).map fun output => { m with output }
  | "header_base" => (string? value).map fun base => { m with headerBase := some base }
  | "ignore" => (strings? value).map fun ignore => { m with ignore }
  | _ => none

/-- The manifest with some settings. -/
def ofSettings? (settings : List (String × Value)) : Option Manifest :=
  settings.foldlM (fun m (field, value) => set? m field value) { name := "" }

/-- The manifest that a value describes. -/
def ofValue? : Value → Option Manifest
  | .table _ entries =>
    if entries.any (·.1 == "name") then ofSettings? entries else none
  | .array items => if 5 ≤ items.length then ofSettings? (fieldNames.zip items) else none
  | _ => none

/-- The name of the table that describes a manifest. -/
def tableName : String := "bindings"

/-- The manifest that a document describes, not yet checked. -/
def ofDocument? (document : Table) : Option Manifest :=
  if document.all fun (name, value) => name == tableName || value.isReadable then
    (document.value? tableName).bind ofValue?
  else none

/-! ### Checks -/

/-- The text ends in a segment that names nothing. -/
def namesNothing (entry : String) : Bool := isBlankText (lastName entry)

/-- The first fault of a manifest within its source: of the name, then of the names to ignore, then
of the base directory. -/
def check (source : String) (m : Manifest) : Except ManifestError Unit := do
  checkName source "namespace name" m.name
  match m.ignore.find? namesNothing with
  | some entry => .error (.emptyIgnore entry (findSpan? source entry))
  | none =>
    if m.headerBase.any isBlankText then .error (.emptyHeaderBase (findSpan? source ""))
    else .ok ()

/-- The manifest of a text. -/
def parse (source : String) : Except ManifestError Manifest :=
  match (Toml.parse? source).bind ofDocument? with
  | none => .error .malformed
  | some m => do
    check source m
    return m

end Manifest

/-! ### Files -/

/-- The path of the manifest that is read when none is named. -/
def manifestPath : String := "dub.toml"

/-- A manifest with the path and the text of its file. -/
structure ManifestFile where
  path : String
  text : String
  manifest : Manifest

namespace ManifestFile

/-- The manifest of the file at a path. -/
def read (fs : FileSystem) (path : String) : Except ManifestError ManifestFile :=
  match fs.read? path with
  | none => .error (.unreadable path)
  | some text => (Manifest.parse text).map fun manifest => { path, text, manifest }

/-- A path of the manifest as it is reached from where the path of its file starts. -/
def resolve (file : ManifestFile) (path : String) : String :=
  match parent? file.path with
  | some directory => join directory path
  | none => path

end ManifestFile

end LuaBinder
