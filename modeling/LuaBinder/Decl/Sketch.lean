import LuaBinder.Decl.Markup
import LuaBinder.Text.Blank

/-!
Sketches of declarations: a function given by a few texts, and the markup that declares it. The
definition and the argument list are made up from the other texts unless they are given.
-/

namespace LuaBinder

open Text

/-- A function given by its texts. -/
structure Sketch where
  name : String
  result : String
  isStatic : Bool := false
  params : List Element := []
  definition : Option String := none
  argsstring : Option String := none
  location : Option (String × String) := none

namespace Sketch

/-- The markup of a parameter: its type, its name, and its default value if it has one. -/
def param (type name : String) (defaultValue : Option String) : Element where
  tag := "param"
  content :=
    [(Element.ofText "type" type).toMarkup, (Element.ofText "declname" name).toMarkup]
      ++ (defaultValue.map fun value => (Element.ofText "defval" value).toMarkup).toList

/-- The type and the name of a parameter. -/
def paramText (param : Element) : String :=
  trim (param.childText "type" ++ " " ++ param.childText "declname")

/-- The definition as given, else the type and the name. -/
def definitionText (s : Sketch) : String := s.definition.getD (trim (s.result ++ " " ++ s.name))

/-- The argument list as given, else the parameters between parentheses. -/
def argsText (s : Sketch) : String :=
  s.argsstring.getD ("(" ++ String.intercalate ", " (s.params.map paramText) ++ ")")

/-- The markup that declares the function. -/
def declare (s : Sketch) : Element where
  tag := "memberdef"
  attributes :=
    [("kind", "function"), ("prot", "public")] ++ (if s.isStatic then [("static", "yes")] else [])
  content :=
    [(Element.ofText "type" s.result).toMarkup,
     (Element.ofText "definition" s.definitionText).toMarkup,
     (Element.ofText "argsstring" s.argsText).toMarkup,
     (Element.ofText "name" s.name).toMarkup]
      ++ s.params.map Element.toMarkup
      ++ (s.location.map fun (file, line) =>
            Markup.element "location" [("file", file), ("line", line)] []).toList

/-- The compound element of a class that a header declares. -/
def compound (name header : String) : Element where
  tag := "compounddef"
  attributes := [("kind", "class")]
  content :=
    [(Element.ofText "compoundname" name).toMarkup,
     .element "location" [("file", header), ("line", "1")] []]

end Sketch

end LuaBinder
