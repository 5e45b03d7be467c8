import LuaBinder.Lua.Exclusion

/-!
Include paths: a header path without everything up to the last occurrence of the base directory,
or its last segment when the base does not occur.
-/

namespace LuaBinder.Lua

open Text

/-- A path without the slashes at its two ends. -/
def trimSlashes (path : List Char) : List Char :=
  ((path.dropWhile (· == '/')).reverse.dropWhile (· == '/')).reverse

/-- What follows the last occurrence of a base directory in a header path. -/
def belowBase? (base header : String) : Option String :=
  let directory := trimSlashes base.toList
  match splitLast? ('/' :: directory ++ ['/']) header.toList with
  | some (_, rest) => some (String.ofList rest)
  | none => (afterHead? (directory ++ ['/']) header.toList).map String.ofList

/-- The path under which a binding includes a header. -/
def Options.includePath (o : Options) (header : String) : String :=
  match o.headerBase.bind (belowBase? · header) with
  | some path => path
  | none => lastSegments header 1

end LuaBinder.Lua
