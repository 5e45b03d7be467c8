import LuaBinder.Code.Builder
import LuaBinder.Text.Quoted

/-!
Registration tables: rows of a quoted name and an identifier, the names filled up to a column.
-/

namespace LuaBinder.Code

open Text

/-- Width of the column of quoted names. -/
def nameColumn : Nat := 20

/-- A name of the target language and the identifier it is registered with. -/
structure Row where
  name : String
  identifier : String
  deriving DecidableEq

/-- The row as an initializer. -/
def Row.text (r : Row) : String :=
  "\x7b " ++ padRight nameColumn (quote r.name) ++ ", " ++ r.identifier ++ " \x7d"

/-- The rows of a table, a comma and a line end between two of them. -/
def tableText (rows : List Row) : String := String.intercalate ",\n" (rows.map Row.text)

/-- The rows of a table, each with a comma. -/
def tableRows (rows : List Row) : List Step :=
  if rows.isEmpty then [] else [.lines (tableText rows ++ ",")]

end LuaBinder.Code
