/-!
What goes wrong between a declaration and its binding.

* `Obstacle`: why a function cannot be called across the language boundary.
* `BindingError`: the errors of the declaration graph, with their texts.
-/

namespace LuaBinder

/-- Why a function cannot be called across the language boundary. -/
inductive Obstacle where
  | argumentType (argument type : String)
  | openArray (argument suffix : String)
  | arrayOfObjects (argument : String)
  | returnType (type : String)
  deriving DecidableEq

/-- The obstacle in words. -/
def Obstacle.message : Obstacle → String
  | .argumentType argument type =>
    "argument '" ++ argument ++ "' has unsupported type '" ++ type ++ "'"
  | .openArray argument suffix =>
    "array argument '" ++ argument ++ "' has no fixed length '" ++ suffix ++ "'"
  | .arrayOfObjects argument => "array argument '" ++ argument ++ "' must hold scalars"
  | .returnType type => "unsupported return type '" ++ type ++ "'"

/-- An error about one declaration, given by its qualified name. -/
inductive BindingError where
  | missingLocation (declaration : String)
  | unboundRenderer (declaration : String)
  | missingNode (declaration tag : String)
  | unconvertible (declaration location : String) (obstacle : Obstacle)
  deriving DecidableEq

namespace BindingError

/-- The declaration that the error is about. -/
def declaration : BindingError → String
  | .missingLocation declaration => declaration
  | .unboundRenderer declaration => declaration
  | .missingNode declaration _ => declaration
  | .unconvertible declaration _ _ => declaration

/-- The error in words. -/
def message : BindingError → String
  | .missingLocation declaration => "'" ++ declaration ++ "' has no location metadata"
  | .unboundRenderer declaration => "no generator bound for '" ++ declaration ++ "'"
  | .missingNode declaration tag =>
    "'" ++ declaration ++ "' is missing a <" ++ tag ++ "> node"
  | .unconvertible declaration location obstacle =>
    "failed to render '" ++ declaration ++ "' (" ++ location ++ "): " ++ obstacle.message

/-- The identifier of the kind of error. -/
def code : BindingError → String
  | .missingLocation _ => "dub::missing_location"
  | .unboundRenderer _ => "dub::unbound_generator"
  | .missingNode _ _ => "dub::missing_node"
  | .unconvertible _ _ _ => "dub::render_error"

/-- What the user can do about the error. -/
def help? : BindingError → Option String
  | .missingLocation _ =>
    some "make sure doxygen was run with XML output and source browsing enabled"
  | .unboundRenderer _ =>
    some "bind a generator to the declaration, its class or its namespace before rendering"
  | .missingNode _ _ => none
  | .unconvertible _ _ _ => none

end BindingError

end LuaBinder
