import LuaBinder.Doxygen.Directory
import LuaBinder.Lua.Library
import LuaBinder.Manifest.Basic

/-!
Settings: a manifest with what the user says on top of it.

* `Settings`, `Settings.ofManifest`: the settings, and those of a manifest.
* `Settings.load`: the namespace that they name.
* `RunError`: why a run failed.
-/

namespace LuaBinder

open Store

/-- What to bind, where the declarations come from and where the bindings go. Without a name, the
first namespace is bound. -/
structure Settings where
  name : Option String := none
  language : Language := .lua
  input : String := "doc/xml"
  output : String := "bind"
  headerBase : Option String := none
  ignore : List String := []
  deriving DecidableEq

/-- Why a run failed. -/
inductive RunError where
  | loading (input : String) (cause : Doxygen.LoadError)
  | rendering (cause : Lua.Failure)
  | generating (cause : Lua.Failure)
  deriving DecidableEq

/-- The error in words, then its causes. -/
def RunError.chain : RunError → List String
  | .loading input cause =>
    ["failed to load doxygen XML from '" ++ input ++ "'", cause.message]
  | .rendering cause => cause.chain
  | .generating cause => "Failed to generate bindings" :: cause.chain

namespace Settings

/-- The settings of a manifest, its paths as they are reached from where the path of its file
starts. -/
def ofManifest (file : ManifestFile) : Settings where
  name := some file.manifest.name
  language := file.manifest.language
  input := file.resolve file.manifest.input
  output := file.resolve file.manifest.output
  headerBase := file.manifest.headerBase
  ignore := file.manifest.ignore

/-- How bindings are generated under the settings. -/
def options (s : Settings) : Lua.Options where
  ignored := s.ignore
  headerBase := s.headerBase

/-- The namespace that the settings name. -/
def load (fs : FileSystem) (s : Settings) : Except RunError NamespaceDecl :=
  match Doxygen.loadNamespace fs s.input s.name with
  | .ok n => .ok n
  | .error cause => .error (.loading s.input cause)

end Settings

/-- The ignored functions of a report, with the reasons in words. -/
def ignoredNames (o : Lua.Options) (n : NamespaceDecl) : List (String × String) :=
  (Lua.ignored o n).map fun (name, reason) => (name, reason.text)

end LuaBinder
