import LuaBinder.Text.Segments

/-!
Paths as texts: joining, parents, and the steps that lead from a directory to an entry.

* `join`: a path below a base, or the path alone when it is absolute.
* `parent?`: the path without its last component; repeated slashes and single dots before the
  cut stay, those at the cut go.
* `steps`: the components to walk, empty ones left out.
* `isUsable`, `isName`: the paths that can be followed, and the names that an entry can have.
-/

namespace LuaBinder.Store

open Text

/-- The path starts at the root. -/
def isAbsolute (path : String) : Bool := path.toList.head? == some '/'

/-- The path ends with a slash. -/
def endsWithSlash (path : String) : Bool := endsWith '/' path

/-- A path below a base. An absolute path stands for itself, and an empty base adds nothing. -/
def join (base path : String) : String :=
  if isAbsolute path || base.isEmpty then path
  else if endsWithSlash base then base ++ path
  else base ++ "/" ++ path

/-- The segments without those at the end that name nothing: empty ones and single dots, except a
dot at the very start. -/
def trimSegments (segments : List String) : List String :=
  let rec drop : List String → List String
    | [] => []
    | [first] => if first.isEmpty then [] else [first]
    | last :: rest => if last.isEmpty || last == "." then drop rest else last :: rest
  (drop segments.reverse).reverse

/-- The path without its last component, absent for the root and for the empty path. -/
def parent? (path : String) : Option String :=
  if isAbsolute path then
    match trimSegments ("." :: (segments path).tail) with
    | [] => none
    | [_] => none
    | parts =>
      some ("/" ++ String.intercalate "/" (trimSegments parts.dropLast).tail)
  else
    match trimSegments (segments path) with
    | [] => none
    | parts => some (String.intercalate "/" (trimSegments parts.dropLast))

/-- The components of a path, empty ones left out. -/
def steps (path : String) : List String := (segments path).filter (! ·.isEmpty)

/-! ### Limits -/

/-- The greatest length of a path in bytes. -/
def pathLimit : Nat := 4095

/-- The greatest length of a name in bytes. -/
def nameLimit : Nat := 255

/-- The path can be followed: it is short enough and holds no null character. -/
def isUsable (path : String) : Bool :=
  path.utf8ByteSize ≤ pathLimit && ! path.toList.contains '\x00'

/-- An entry can have the name, as far as its length goes. -/
def isName (name : String) : Bool := name.utf8ByteSize ≤ nameLimit

end LuaBinder.Store
