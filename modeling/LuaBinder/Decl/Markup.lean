/-!
Declaration markup: elements with attributes whose content mixes text runs and elements.

* `Markup`, `Element`: a piece of content, and an element seen on its own.
* `Element.text`: the text of a whole subtree in document order, so that inline markup around a
  word does not matter.
* `Element.child?`, `Element.childText`: the first child with a tag, and its text.
-/

namespace LuaBinder

/-- A piece of content: a text run or an element. -/
inductive Markup where
  | text (run : String)
  | element (tag : String) (attributes : List (String × String)) (content : List Markup)

/-- An element with its attributes and its content in document order. -/
structure Element where
  tag : String
  attributes : List (String × String) := []
  content : List Markup := []

instance : Inhabited Element := ⟨⟨"", [], []⟩⟩

mutual

/-- The text of a piece of content. -/
def Markup.flatten : Markup → String
  | .text run => run
  | .element _ _ content => Markup.flattenAll content

/-- The text of a list of content. -/
def Markup.flattenAll : List Markup → String
  | [] => ""
  | m :: ms => m.flatten ++ Markup.flattenAll ms

end

/-- The element that a piece of content is, if it is one. -/
def Markup.element? : Markup → Option Element
  | .text _ => none
  | .element tag attributes content => some ⟨tag, attributes, content⟩

namespace Element

/-- An element as a piece of content. -/
def toMarkup (e : Element) : Markup := .element e.tag e.attributes e.content

/-- An element without attributes that holds one text run. -/
def ofText (tag run : String) : Element := ⟨tag, [], [.text run]⟩

/-- Attributes in which `name` has the value `value`: a known name keeps its place, a new one
comes last. -/
def setAttribute (name value : String) : List (String × String) → List (String × String)
  | [] => [(name, value)]
  | (n, v) :: rest =>
    if n = name then (n, value) :: rest else (n, v) :: setAttribute name value rest

/-- The value that was set is found, and no other attribute changes. -/
theorem find?_setAttribute (name value other : String) (attributes : List (String × String)) :
    ((setAttribute name value attributes).find? (·.1 == other)).map (·.2)
      = if other = name then some value
        else (attributes.find? (·.1 == other)).map (·.2) := by
  induction attributes with
  | nil => by_cases h : other = name <;> simp [setAttribute, h, Ne.symm]
  | cons a rest ih =>
    obtain ⟨n, v⟩ := a
    grind [setAttribute]

/-- The value of an attribute. -/
def attribute? (e : Element) (name : String) : Option String :=
  (e.attributes.find? (·.1 == name)).map (·.2)

/-- The child elements in document order. -/
def elements (e : Element) : List Element := e.content.filterMap Markup.element?

/-- The child elements with a tag, in document order. -/
def children (e : Element) (tag : String) : List Element :=
  e.elements.filter (·.tag == tag)

/-- The first child element with a tag. -/
def child? (e : Element) (tag : String) : Option Element := (e.children tag).head?

/-- The text of the whole subtree. -/
def text (e : Element) : String := Markup.flattenAll e.content

/-- The text of the first child with a tag, empty when there is none. -/
def childText (e : Element) (tag : String) : String :=
  match e.child? tag with
  | some child => child.text
  | none => ""

end Element

end LuaBinder
