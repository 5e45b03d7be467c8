import LuaBinder.Text.Lines

/-!
Comparison of two texts line by line, with a report of the lines that differ.
-/

namespace LuaBinder.Code

open Text

/-- The two sides of a line of the given number, where a side may be missing. -/
def lineDifference (number : Nat) (expected actual : Option String) : String :=
  let left := expected.getD "<missing>"
  let right := actual.getD "<missing>"
  if left == right then ""
  else
    "Line " ++ toString number ++ ":\n  expected: " ++ left ++ "\n  actual:   " ++ right ++ "\n"

/-- The lines that differ, from the given number on. -/
def lineDifferences (number : Nat) : List String → List String → String
  | [], [] => ""
  | e :: es, [] => lineDifference number (some e) none ++ lineDifferences (number + 1) es []
  | [], a :: as => lineDifference number none (some a) ++ lineDifferences (number + 1) [] as
  | e :: es, a :: as =>
    lineDifference number (some e) (some a) ++ lineDifferences (number + 1) es as

/-- Nothing for equal texts, else a report of the lines that differ. -/
def mismatch? (expected actual : String) : Option String :=
  if expected == actual then none
  else some ("Content mismatch:\n" ++ lineDifferences 1 (lines expected) (lines actual))

end LuaBinder.Code
