import LuaBinder.Decl.Markup

/-!
Declaration markup as exchange data: the values of a JSON document, and elements as objects with
the fields `tag`, `attributes` and `content`.

* `Exchange`: a value of an exchange document.
* `Element.toExchange`: empty attributes and empty content are left out.
* `Element.ofExchange?`: reads an object, whose unknown fields it passes over, or an array that
  lists the three fields in order; a missing field other than the tag is empty.

An object is read as a map, which cannot tell that a field was repeated. No element whose attributes
have different names is written with a repeated field.
-/

namespace LuaBinder

/-- A value of an exchange document. Numbers keep their text. -/
inductive Exchange where
  | null
  | boolean (value : Bool)
  | number (text : String)
  | string (value : String)
  | array (items : List Exchange)
  | object (fields : List (String × Exchange))
  deriving Inhabited

namespace Exchange

/-- The value of a field. An object is read as a map here, so of two fields with one name the later
counts; a reader that fills a record field by field reports the second one instead. -/
def field? (name : String) (fields : List (String × Exchange)) : Option Exchange :=
  (fields.reverse.find? (·.1 == name)).map (·.2)

/-- The text of a string value. -/
def string? : Exchange → Option String
  | .string value => some value
  | _ => none

/-- An object whose fields are all strings. -/
def attributes? : Exchange → Option (List (String × String))
  | .object fields =>
    fields.foldlM (fun done (name, value) =>
      (value.string?).map (Element.setAttribute name · done)) []
  | _ => none

end Exchange

mutual

/-- Content as an exchange value: a run is a string, an element an object. -/
def Markup.toExchange : Markup → Exchange
  | .text run => .string run
  | .element tag attributes content =>
    .object <|
      [("tag", .string tag)]
        ++ (if attributes.isEmpty then []
            else [("attributes", .object (attributes.map fun (n, v) => (n, .string v)))])
        ++ (if content.isEmpty then [] else [("content", .array (Markup.toExchanges content))])

/-- A list of content as exchange values. -/
def Markup.toExchanges : List Markup → List Exchange
  | [] => []
  | m :: ms => m.toExchange :: Markup.toExchanges ms

end

mutual

/-- The content that an exchange value stands for. -/
def Markup.ofExchange? : Exchange → Option Markup
  | .string run => some (.text run)
  | .object fields => do
    let tag ← (Exchange.field? "tag" fields).bind Exchange.string?
    let attributes ← match Exchange.field? "attributes" fields with
      | some value => value.attributes?
      | none => some []
    let content ← Markup.contentOfFields? fields none
    return .element tag attributes content
  | .array items => do
    let tag ← (items[0]?).bind Exchange.string?
    let attributes ← match items[1]? with
      | some value => value.attributes?
      | none => some []
    let content ← Markup.contentOfItems? items
    if items.length ≤ 3 then return .element tag attributes content else none
  | _ => none

/-- The content that the last field named `content` holds, `found` when no field has the name. -/
def Markup.contentOfFields? : List (String × Exchange) → Option (Option (List Markup)) →
    Option (List Markup)
  | [], found => found.getD (some [])
  | (name, value) :: rest, found =>
    Markup.contentOfFields? rest
      (if name = "content" then some (Markup.listOfExchange? value) else found)

/-- The content that the third item of an array holds. -/
def Markup.contentOfItems? : List Exchange → Option (List Markup)
  | [_, _, content] => Markup.listOfExchange? content
  | _ => some []

/-- The content that an array of exchange values stands for. -/
def Markup.listOfExchange? : Exchange → Option (List Markup)
  | .array items => Markup.ofExchanges? items
  | _ => none

/-- A list of content, if every value stands for some. -/
def Markup.ofExchanges? : List Exchange → Option (List Markup)
  | [] => some []
  | e :: es => do
    let m ← Markup.ofExchange? e
    let ms ← Markup.ofExchanges? es
    return m :: ms

end

namespace Element

/-- An element as an exchange object. -/
def toExchange (e : Element) : Exchange := e.toMarkup.toExchange

/-- The element that an exchange value stands for. -/
def ofExchange? (value : Exchange) : Option Element :=
  (Markup.ofExchange? value).bind Markup.element?

end Element

end LuaBinder
