import LuaBinder.Text.Entity
import LuaBinder.Xml.Character

/-!
Character data of a document: names, references, and the normal form of text.

* `takeName?`, `takeQName?`: a name, and a name with its label before the colon.
* `takeReference?`: a character reference; documents have no entities of their own.
* `normalText?`: text with every line end as one line feed.
* `normalValue?`: an attribute value with every white space character as a space.
-/

namespace LuaBinder.Xml

open LuaBinder.Text

/-- What follows the white space at the start. -/
def skipSpaces (cs : List Char) : List Char := cs.dropWhile isSpace

/-! ### Names -/

/-- A name, and what follows it. -/
def takeName? : List Char → Option (List Char × List Char)
  | [] => none
  | c :: cs =>
    if isNameStart c then some (c :: cs.takeWhile isNamePart, cs.dropWhile isNamePart) else none

/-- A name with an optional label before a colon. -/
structure QName where
  label : List Char
  bare : List Char
  deriving DecidableEq

/-- A part of a name that is empty or starts like a name. -/
def startsLikeName (cs : List Char) : Bool := cs.head?.all isNameStart

/-- A name with at most one colon, and what follows it. The part behind the colon is never
empty. -/
def takeQName? (cs : List Char) : Option (QName × List Char) :=
  let run := cs.takeWhile isNamePart
  let rest := cs.dropWhile isNamePart
  let before := run.takeWhile (· != ':')
  let name? : Option QName :=
    match run.dropWhile (· != ':') with
    | [] => some ⟨[], before⟩
    | _ :: after => if after.contains ':' then none else some ⟨before, after⟩
  match name? with
  | none => none
  | some name =>
    if startsLikeName name.label && startsLikeName name.bare && ! name.bare.isEmpty then
      some (name, rest)
    else none

/-! ### References -/

/-- The character with a code point; what is no character of Unicode becomes the replacement
character. -/
def characterOf (n : Nat) : Char := (scalar? n).getD '\ufffd'

/-- The character of a code point given by digits. Its number has at most 32 bits, and it is one
that a document may hold. -/
def characterOfDigits? (base : Nat) (digits : List Char) : Option Char :=
  match number? base digits with
  | none => none
  | some n =>
    if n < Nat.pow 2 32 && isCharacter (characterOf n) then some (characterOf n) else none

/-- The character of a predefined name. -/
def predefined? : List Char → Option Char
  | ['q', 'u', 'o', 't'] => some '"'
  | ['a', 'm', 'p'] => some '&'
  | ['a', 'p', 'o', 's'] => some '\''
  | ['l', 't'] => some '<'
  | ['g', 't'] => some '>'
  | _ => none

/-- A hexadecimal digit. -/
def isHexDigit (c : Char) : Bool := (digitValue? 16 c).isSome

/-- The character of a reference whose ampersand was read, with what stands before the semicolon
cut off. -/
def takeReferenceBody? : List Char → Option (Char × List Char)
  | '#' :: 'x' :: cs =>
    (characterOfDigits? 16 (cs.takeWhile isHexDigit)).map (·, cs.dropWhile isHexDigit)
  | '#' :: cs =>
    (characterOfDigits? 10 (cs.takeWhile Char.isDigit)).map (·, cs.dropWhile Char.isDigit)
  | cs =>
    match takeName? cs with
    | some (name, rest) => (predefined? name).map (·, rest)
    | none => none

/-- The character of a reference whose ampersand was read, and what follows the semicolon. -/
def takeReference? (cs : List Char) : Option (Char × List Char) :=
  match takeReferenceBody? cs with
  | some (c, ';' :: rest) => some (c, rest)
  | _ => none

/-! ### Text -/

/-- A character of the text appended to a reversed buffer. A carriage return waits for the next
character to become a line feed, unless it is the last one. -/
def pushText (buffer : List Char) (c : Char) (isLast : Bool) : List Char :=
  match buffer with
  | '\r' :: before =>
    if isLast && c == '\r' then '\n' :: '\n' :: before
    else if c == '\n' then '\n' :: before
    else c :: '\n' :: before
  | _ => if isLast && c == '\r' then '\n' :: buffer else c :: buffer

/-- Text appended to a reversed buffer, references decoded. The character of a reference and the
one behind it are taken as they are. The fuel bounds the length of the text. -/
def normalTextFrom : Nat → List Char → Bool → List Char → Option (List Char)
  | _, buffer, _, [] => some buffer.reverse
  | 0, _, _, _ :: _ => none
  | fuel + 1, buffer, afterReference, c :: cs =>
    if c = '&' then
      match takeReference? cs with
      | some (d, rest) => normalTextFrom fuel (d :: buffer) true rest
      | none => none
    else if afterReference then normalTextFrom fuel (c :: buffer) false cs
    else normalTextFrom fuel (pushText buffer c cs.isEmpty) false cs

/-- Text with references decoded and line ends made line feeds, absent when a reference is
malformed. -/
def normalText? (cs : List Char) : Option (List Char) := normalTextFrom cs.length [] false cs

/-- Literal text appended to a reversed buffer, line ends made line feeds. -/
def normalLiteralFrom (buffer : List Char) : List Char → List Char
  | [] => buffer.reverse
  | c :: cs => normalLiteralFrom (pushText buffer c cs.isEmpty) cs

/-- Literal text with line ends made line feeds. -/
def normalLiteral (cs : List Char) : List Char := normalLiteralFrom [] cs

/-- An attribute value with references decoded and white space made spaces; a carriage return
before a line feed is left out. The fuel bounds the length of the value. -/
def normalValueFrom : Nat → List Char → Option (List Char)
  | _, [] => some []
  | 0, _ :: _ => none
  | fuel + 1, c :: cs =>
    if c = '&' then
      match takeReference? cs with
      | some (d, rest) => (normalValueFrom fuel rest).map (d :: ·)
      | none => none
    else if c = '\r' ∧ cs.head? = some '\n' then normalValueFrom fuel cs
    else (normalValueFrom fuel cs).map ((if isSpace c then ' ' else c) :: ·)

/-- An attribute value in its normal form, absent when a reference is malformed. -/
def normalValue? (cs : List Char) : Option (List Char) := normalValueFrom cs.length cs

end LuaBinder.Xml
