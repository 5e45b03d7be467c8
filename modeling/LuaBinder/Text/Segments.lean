import LuaBinder.Text.Blank
import LuaBinder.Text.Search

/-!
Paths and qualified names as sequences of segments.

* `segments`: the parts of a path between slashes, empty ones kept.
* `lastSegments`: a path cut down to its last segments.
* `lastName`: the last segment of a name qualified with `::`.
-/

namespace LuaBinder.Text

/-- The parts of a path between slashes. -/
def segments (path : String) : List String :=
  (pieces (· == '/') path.toList).map String.ofList

/-- At most the last `count` segments of a path, joined by slashes again. -/
def lastSegments (path : String) (count : Nat) : String :=
  let parts := segments path
  String.intercalate "/" (parts.drop (parts.length - count))

/-- The last `::` segment of a qualified name. -/
def lastName (qualified : String) : String := afterLast "::" qualified

end LuaBinder.Text
