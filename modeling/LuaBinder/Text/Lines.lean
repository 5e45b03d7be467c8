import LuaBinder.Text.Blank

/-!
The lines of a text. A line ends with a line feed, which may follow a carriage return; neither
belongs to the line. The last line needs no end, and an empty text has no line.
-/

namespace LuaBinder.Text

/-- A line without the carriage return that its line feed followed. -/
def dropReturn (line : List Char) : List Char :=
  if line.getLast? = some '\r' then line.dropLast else line

/-- The lines among the rows between line feeds: all rows but the last lost their line feed,
and the last counts only if it holds something. -/
def linesOfRows : List (List Char) → List (List Char)
  | [] => []
  | [last] => if last.isEmpty then [] else [last]
  | row :: rows => dropReturn row :: linesOfRows rows

/-- The lines of a text. -/
def lines (s : String) : List String :=
  (linesOfRows (pieces (· == '\n') s.toList)).map String.ofList

end LuaBinder.Text
