import LuaBinder.Decl.Markup
import LuaBinder.Text.Search
import LuaBinder.Xml.Text

/-!
Documents: the markup of an XML text.

A document is an optional byte order mark, an optional declaration, one element, and comments and
processing instructions around it. Document type declarations are refused. Names must use labels
that a namespace declaration in scope gives a meaning to; elements and attributes then go by
their local names, and of two attributes with one local name the later value counts.

* `StartTag.take?`: a start tag with its attributes.
* `Frame`: an element that is still open.
* `parse?`: the root element of a document.
-/

namespace LuaBinder.Xml

open LuaBinder.Text

/-! ### Namespaces -/

/-- The address of the namespace of the label `xml`. -/
def xmlAddress : List Char := "http://www.w3.org/XML/1998/namespace".toList

/-- The address of the namespace of namespace declarations. -/
def declarationAddress : List Char := "http://www.w3.org/2000/xmlns/".toList

/-- The label of namespace declarations. -/
def declarationLabel : List Char := "xmlns".toList

/-- The label that needs no declaration. -/
def xmlLabel : List Char := "xml".toList

/-- The labels in scope with their addresses, the innermost first. -/
abbrev Scope := List (List Char × List Char)

/-- The address of a label. -/
def Scope.address? (scope : Scope) (label : List Char) : Option (List Char) :=
  (scope.find? (·.1 == label)).map (·.2)

/-! ### Start tags -/

/-- An attribute as it is written, its value in normal form. -/
structure RawAttribute where
  name : QName
  value : List Char

/-- The quoted value of an attribute whose name was read, and what follows it. -/
def takeValue? (cs : List Char) : Option (List Char × List Char) :=
  match skipSpaces cs with
  | '=' :: cs =>
    match skipSpaces cs with
    | q :: cs =>
      if q == '"' || q == '\'' then
        let inValue := fun c => c != q && c != '<'
        let value := cs.takeWhile inValue
        match cs.dropWhile inValue with
        | e :: rest => if e == q && value.all isCharacter then some (value, rest) else none
        | [] => none
      else none
    | [] => none
  | _ => none

/-- An attribute, and what follows it. -/
def takeAttribute? (cs : List Char) : Option ((QName × List Char) × List Char) :=
  match takeQName? cs with
  | none => none
  | some (name, rest) => (takeValue? rest).map fun (value, rest) => ((name, value), rest)

/-- A start tag: its name, its attributes, and whether it is an end tag too. -/
structure StartTag where
  name : QName
  attributes : List RawAttribute
  isEmpty : Bool

namespace StartTag

/-- The attributes up to the end of the tag, whether it is an end tag too, and what follows. The
fuel bounds the number of attributes. -/
def takeAttributes? : Nat → List Char → Option (List RawAttribute × Bool × List Char)
  | 0, _ => none
  | fuel + 1, cs =>
    match skipSpaces cs with
    | [] => none
    | '/' :: rest =>
      match rest with
      | '>' :: rest => some ([], true, rest)
      | _ => none
    | '>' :: rest => some ([], false, rest)
    | next =>
      if cs.head?.any isSpace then
        match takeAttribute? next with
        | none => none
        | some ((name, raw), rest) =>
          match normalValue? raw, takeAttributes? fuel rest with
          | some value, some (attributes, isEmpty, rest) =>
            some (⟨name, value⟩ :: attributes, isEmpty, rest)
          | _, _ => none
      else none

/-- A start tag whose opening bracket was read, and what follows it. -/
def take? (cs : List Char) : Option (StartTag × List Char) :=
  match takeQName? cs with
  | none => none
  | some (name, rest) =>
    (takeAttributes? (rest.length + 1) rest).map fun (attributes, isEmpty, rest) =>
      (⟨name, attributes, isEmpty⟩, rest)

/-- The attribute declares a label. -/
def declaresLabel (a : RawAttribute) : Bool := a.name.label == declarationLabel

/-- The attribute declares the namespace of names without a label. -/
def declaresDefault (a : RawAttribute) : Bool :=
  ! declaresLabel a && a.name.bare == declarationLabel

/-- The labels that the attributes declare, in front of those declared so far. A label is declared
once, and the reserved addresses keep their labels. -/
def declared? : Scope → List RawAttribute → Option Scope
  | found, [] => some found
  | found, a :: as =>
    if declaresLabel a then
      let isXml := a.value == xmlAddress
      if a.value == declarationAddress then none
      else if (a.name.bare == xmlLabel) != isXml then none
      else if (Scope.address? found a.name.bare).isSome then none
      else if isXml then declared? found as
      else declared? ((a.name.bare, a.value) :: found) as
    else if declaresDefault a then
      if a.value == xmlAddress || a.value == declarationAddress then none
      else declared? found as
    else declared? found as

/-- The namespace address of an attribute, where a label needs a meaning. -/
def attributeAddress? (scope : Scope) (name : QName) : Option (Option (List Char)) :=
  if name.label == xmlLabel then some (some xmlAddress)
  else if name.label.isEmpty then some none
  else (Scope.address? scope name.label).map some

/-- The attributes that declare no namespace, by their local names. No two of them have the same
address and the same local name. -/
def resolve? (scope : Scope) (attributes : List RawAttribute) :
    Option (List (String × String)) :=
  let rec go : List (Option (List Char) × List Char) → List RawAttribute →
      List (String × String) → Option (List (String × String))
    | _, [], done => some done
    | seen, a :: as, done =>
      match attributeAddress? scope a.name with
      | none => none
      | some address =>
        if seen.contains (address, a.name.bare) then none
        else
          go ((address, a.name.bare) :: seen) as
            (Element.setAttribute (String.ofList a.name.bare) (String.ofList a.value) done)
  go [] (attributes.filter fun a => ! declaresLabel a && ! declaresDefault a) []

end StartTag

/-! ### Open elements -/

/-- An element that is still open: its content so far, the last piece first, and the text run
that the next piece of text joins. -/
structure Frame where
  name : QName
  scope : Scope
  attributes : List (String × String)
  content : List Markup := []
  run : Option (List Char) := none

namespace Frame

/-- The frame with its text run among the content. -/
def flush (f : Frame) : Frame :=
  match f.run with
  | none => f
  | some run => { f with content := .text (String.ofList run) :: f.content, run := none }

/-- The frame with a further piece of text. -/
def addText (f : Frame) (text : List Char) : Frame :=
  { f with run := some (f.run.getD [] ++ text) }

/-- The frame with a further child element. -/
def addElement (f : Frame) (e : Element) : Frame :=
  let f := f.flush
  { f with content := e.toMarkup :: f.content }

/-- The element that closing the frame makes. -/
def close (f : Frame) : Element where
  tag := String.ofList f.name.bare
  attributes := f.attributes
  content := f.flush.content.reverse

/-- The frame that a start tag opens within a scope. -/
def open? (outer : Scope) (tag : StartTag) : Option Frame :=
  if tag.name.label == declarationLabel then none
  else
    match StartTag.declared? [] tag.attributes with
    | none => none
    | some own =>
      let scope := own ++ outer
      match StartTag.resolve? scope tag.attributes with
      | none => none
      | some attributes =>
        if tag.name.label.isEmpty || (Scope.address? scope tag.name.label).isSome then
          some { name := tag.name, scope, attributes }
        else none

end Frame

/-! ### Markup between elements -/

/-- What follows a comment whose opening was read. A comment holds no two hyphens in a row and
does not end with one. -/
def skipComment? (cs : List Char) : Option (List Char) :=
  match splitFirst? "-->".toList cs with
  | none => none
  | some (body, rest) =>
    if body.all isCharacter && (splitFirst? "--".toList body).isNone
        && body.getLast? != some '-' then some rest
    else none

/-- What follows a processing instruction, which must not look like a declaration. -/
def skipInstruction? (cs : List Char) : Option (List Char) :=
  if (afterHead? "<?xml ".toList cs).isSome then none
  else
    match (afterHead? "<?".toList cs).bind takeName? with
    | none => none
    | some (_, rest) =>
      match splitFirst? "?>".toList (skipSpaces rest) with
      | none => none
      | some (body, rest) => if body.all isCharacter then some rest else none

/-- What follows the comments, instructions and white space around the root element. The fuel
bounds their number. -/
def skipMisc? : Nat → List Char → Option (List Char)
  | 0, cs => some cs
  | fuel + 1, cs =>
    let cs := skipSpaces cs
    match afterHead? "<!--".toList cs with
    | some rest => (skipComment? rest).bind (skipMisc? fuel)
    | none =>
      if (afterHead? "<?".toList cs).isSome then (skipInstruction? cs).bind (skipMisc? fuel)
      else some cs

/-- What follows an attribute that starts with the given word, absent when it is malformed. -/
def skipPseudoAttribute? (word : String) (cs : List Char) : Option (List Char) :=
  match afterHead? word.toList cs with
  | none => none
  | some _ => (takeAttribute? cs).map (·.2)

/-- What follows the white space between the parts of a declaration, which may only be missing at
its end. -/
def skipDeclarationSpaces? (cs : List Char) : Option (List Char) :=
  if cs.head?.any isSpace then some (skipSpaces cs)
  else if (afterHead? "?>".toList cs).isSome then some cs
  else none

/-- What follows the declaration whose first five characters were read. -/
def skipDeclaration? (cs : List Char) : Option (List Char) := do
  let cs ← skipDeclarationSpaces? cs
  let cs ← skipPseudoAttribute? "version" cs
  let cs ← skipDeclarationSpaces? cs
  let cs ←
    if (afterHead? "encoding".toList cs).isSome then
      (skipPseudoAttribute? "encoding" cs).bind skipDeclarationSpaces?
    else some cs
  let cs ←
    if (afterHead? "standalone".toList cs).isSome then skipPseudoAttribute? "standalone" cs
    else some cs
  afterHead? "?>".toList (skipSpaces cs)

/-- A piece of text without markup: all of it are characters that a document may hold, and the end
of a literal section does not occur. -/
def plainText? (raw : List Char) : Option (List Char) :=
  if raw.all isCharacter && (splitFirst? "]]>".toList raw).isNone then normalText? raw else none

/-! ### Elements -/

/-- The rest of a start tag of a child of the innermost open element. -/
def openChild? (top : Frame) (below : List Frame) (tag : StartTag) : Option (List Frame) :=
  (Frame.open? top.scope tag).map fun frame =>
    if tag.isEmpty then top.addElement frame.close :: below
    else frame :: top.flush :: below

/-- The content of the open elements, the innermost first, up to the end of the outermost one;
then that element and what follows it. The fuel bounds the number of pieces. -/
def takeContent? : Nat → List Frame → List Char → Option (Element × List Char)
  | 0, _, _ => none
  | _ + 1, [], _ => none
  | _ + 1, _ :: _, [] => none
  | fuel + 1, top :: below, '<' :: cs =>
    match cs with
    | '!' :: rest =>
      match afterHead? "--".toList rest with
      | some rest =>
        match skipComment? rest with
        | some rest => takeContent? fuel (top.flush :: below) rest
        | none => none
      | none =>
        match (afterHead? "[CDATA[".toList rest).bind (splitFirst? "]]>".toList) with
        | some (body, rest) =>
          if body.all isCharacter then
            takeContent? fuel (top.addText (normalLiteral body) :: below) rest
          else none
        | none => none
    | '?' :: _ =>
      match skipInstruction? ('<' :: cs) with
      | some rest => takeContent? fuel (top.flush :: below) rest
      | none => none
    | '/' :: rest =>
      match takeQName? rest with
      | none => none
      | some (name, rest) =>
        match skipSpaces rest with
        | '>' :: rest =>
          if name = top.name then
            match below with
            | [] => some (top.close, rest)
            | next :: below => takeContent? fuel (next.addElement top.close :: below) rest
          else none
        | _ => none
    | _ =>
      match StartTag.take? cs with
      | none => none
      | some (tag, rest) =>
        match openChild? top below tag with
        | some frames => takeContent? fuel frames rest
        | none => none
  | fuel + 1, top :: below, cs =>
    match plainText? (cs.takeWhile (· != '<')) with
    | some text => takeContent? fuel (top.addText text :: below) (cs.dropWhile (· != '<'))
    | none => none

/-- The root element whose opening bracket was read, and what follows it. -/
def takeRoot? (cs : List Char) : Option (Element × List Char) :=
  match StartTag.take? cs with
  | none => none
  | some (tag, rest) =>
    match Frame.open? [] tag with
    | none => none
    | some frame =>
      if tag.isEmpty then some (frame.close, rest) else takeContent? (rest.length + 1) [frame] rest

/-! ### Documents -/

/-- The root element of a document without its byte order mark. -/
def parseChars? (cs : List Char) : Option Element := do
  let cs ←
    if (afterHead? "<?xml ".toList cs).isSome then skipDeclaration? (cs.drop 5) else some cs
  let cs ← skipMisc? (cs.length + 1) cs
  match cs with
  | '<' :: rest =>
    let (root, rest) ← takeRoot? rest
    let rest ← skipMisc? (rest.length + 1) rest
    if rest.isEmpty then some root else none
  | _ => none

/-- The root element of a document, absent when the text is no document. -/
def parse? (s : String) : Option Element :=
  match s.toList with
  | '\ufeff' :: cs => parseChars? cs
  | cs => parseChars? cs

end LuaBinder.Xml
