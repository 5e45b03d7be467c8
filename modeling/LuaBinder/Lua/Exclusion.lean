import LuaBinder.Decl.Class
import LuaBinder.Lua.Signature

/-!
Which functions are left out of the bindings, and why.

* `Options`: the names to leave out and the directory that include paths start from.
* `Exclusion`: the reasons.
* `exclusion?`: the first reason that applies to a function.
* `keptMembers`, `keptConstructors`: what is left of a class.
-/

namespace LuaBinder.Lua

open Text

/-- How bindings are generated. A name to ignore is a bare one or `Class::member`. -/
structure Options where
  ignored : List String := []
  headerBase : Option String := none

/-- Why a function is left out of the bindings. -/
inductive Exclusion where
  | destructor
  | operator
  | templateResult
  | nativePointerResult
  | templateSignature
  | unconvertible
  | configured
  deriving DecidableEq

/-- The reason in words. -/
def Exclusion.text : Exclusion → String
  | .destructor => "destructor"
  | .operator => "operator"
  | .templateResult => "template return type"
  | .nativePointerResult => "returns a native pointer"
  | .templateSignature => "template in signature"
  | .unconvertible => "unsupported argument or return type"
  | .configured => "ignored in configuration"

/-- The options name the function. -/
def Options.names (o : Options) (f : FunctionDecl) : Bool :=
  o.ignored.any fun name => name == f.name || name == f.qualifiedName

/-- The first reason to leave a function out. -/
def exclusion? (o : Options) (f : FunctionDecl) : Option Exclusion :=
  if startsWith "~" f.name then some .destructor
  else if startsWith "operator" f.name then some .operator
  else if f.resultText?.any (endsWith '>') then some .templateResult
  else if f.returnsNativePointer then some .nativePointerResult
  else if f.signature.toList.contains '>' then some .templateSignature
  else if ! isConvertible f then some .unconvertible
  else if o.names f then some .configured
  else none

/-- The function is left out. -/
def isExcluded (o : Options) (f : FunctionDecl) : Bool := (exclusion? o f).isSome

/-- The functions of a list that get bindings, groups kept; absent when there are none. -/
def keptMembers (o : Options) (members : List (Member FunctionDecl)) :
    Option (List (Member FunctionDecl)) :=
  filterMembers (isExcluded o) members

/-- The constructors that get bindings. -/
def keptConstructors (o : Options) (c : ClassDecl) : List FunctionDecl :=
  c.constructors.filter (! isExcluded o ·)

/-- The functions of a list that get no binding, with the reasons. -/
def excludedOf (o : Options) (functions : List FunctionDecl) : List (String × Exclusion) :=
  functions.filterMap fun f => (exclusion? o f).map (f.qualifiedName, ·)

end LuaBinder.Lua
