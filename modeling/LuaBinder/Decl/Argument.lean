import LuaBinder.Decl.DeclaredType
import LuaBinder.Decl.Markup

/-!
Parameters and return values of a function.

A parameter has a position, counted from one; a return value has none. Both know the name of
their function and a declared type. Names, default values and array suffixes are the trimmed
texts of the declaration, absent when nothing is left of them.
-/

namespace LuaBinder

open Text

/-- A parameter, or a return value when it has no position. -/
structure Argument where
  function : String
  position : Option Nat
  declaredName : Option String
  type : DeclaredType
  defaultValue : Option String
  arraySuffix : Option String
  deriving DecidableEq

namespace Argument

/-- The parameter that a `param` element declares. -/
def ofParam (function : String) (param : Element) (position : Nat) : Argument where
  function := function
  position := some position
  declaredName := nonBlank? (param.childText "declname")
  type := DeclaredType.ofText (param.childText "type")
  defaultValue := nonBlank? (param.childText "defval")
  arraySuffix := nonBlank? (param.childText "array")

/-- A return value of the given type. -/
def result (function typeText : String) : Argument where
  function := function
  position := none
  declaredName := none
  type := DeclaredType.ofText typeText
  defaultValue := none
  arraySuffix := none

/-- The declared name, else a name made from the position. -/
def name (a : Argument) : String :=
  match a.declaredName, a.position with
  | some name, _ => name
  | none, some position => "arg" ++ toString position
  | none, none => "retval__"

/-- The argument stands for any number of further ones. -/
def isVariadic (a : Argument) : Bool := a.position.isSome && a.type.text == "..."

/-- A caller may leave the argument out. -/
def hasDefault (a : Argument) : Bool := a.defaultValue.isSome

end Argument

end LuaBinder
