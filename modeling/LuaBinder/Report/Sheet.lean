import LuaBinder.Text.Search

/-!
Sheets: what a report shows, one entry after the other, and how a terminal shows it.

* `Item`, `Sheet`: the kinds of entries, and a sequence of them.
* `Item.lines`, `Sheet.text`: the entries as lines of text.
-/

namespace LuaBinder

open Text

/-- An entry of a report. -/
inductive Item where
  | title (text : String)
  | heading (text : String)
  | pair (key value : String)
  | indentedPair (key value : String)
  | bullet (text : String)
  | added (text : String)
  | excluded (text reason : String)
  | divider (label : String)
  | preformatted (text : String)
  | gap
  deriving DecidableEq

/-- The entries of a report in order. -/
abbrev Sheet := List Item

/-- The lines of an entry. A title is underlined by one sign for every byte of its text. -/
def Item.lines : Item → List String
  | .title text => [text, String.ofList (List.replicate (byteCount text.toList) '=')]
  | .heading text => [text ++ ":"]
  | .pair key value => [key ++ ": " ++ value]
  | .indentedPair key value => ["  " ++ key ++ ": " ++ value]
  | .bullet text => ["  - " ++ text]
  | .added text => ["  + " ++ text]
  | .excluded text reason => ["  x " ++ text ++ " (" ++ reason ++ ")"]
  | .divider label => ["── " ++ label ++ " ──"]
  | .preformatted text => [text]
  | .gap => [""]

/-- The text of a report. -/
def Sheet.text (sheet : Sheet) : String :=
  String.join ((sheet.flatMap Item.lines).map (· ++ "\n"))

end LuaBinder
