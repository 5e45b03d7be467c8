import LuaBinder.Text.Entity
import LuaBinder.Text.Search

/-!
Layout, strings and keys of a configuration document.

* `skipSpaces`, `skipComment?`, `lineEnd?`, `endLine?`: what may stand between the parts of a line
  and behind them.
* `skipGaps?`: what may stand between the parts of an array or a table in braces, over any number
  of lines.
* `takeString?`: a string in one of the four kinds of quotes.
* `takePath?`: a key, which is a path of names with dots between them.
-/

namespace LuaBinder.Toml

open LuaBinder.Text

/-! ### Layout -/

/-- The characters that separate parts of a line. -/
def isSpace (c : Char) : Bool := c == ' ' || c == '\t'

/-- The characters that a document may only write as escapes: the controls other than the tab. Line
ends count among them, and stand as they are only in texts over several lines. -/
def isControl (c : Char) : Bool := (c.toNat < 0x20 && c != '\t') || c.toNat == 0x7F

/-- What follows the spaces at the start. -/
def skipSpaces (cs : List Char) : List Char := cs.dropWhile isSpace

/-- What follows a line feed, or a carriage return with a line feed. -/
def lineEnd? : List Char → Option (List Char)
  | '\n' :: cs => some cs
  | '\r' :: '\n' :: cs => some cs
  | _ => none

/-- The character may stand on a line, as far as the end of the line goes. -/
def inLine (c : Char) : Bool := c != '\n' && c != '\r'

/-- What follows a comment at the start, all of the list when there is none. -/
def skipComment? : List Char → Option (List Char)
  | '#' :: cs =>
    if (cs.takeWhile inLine).any isControl then none else some (cs.dropWhile inLine)
  | cs => some cs

/-- What follows the spaces, the comment and the end of a line. -/
def endLine? (cs : List Char) : Option (List Char) :=
  match skipComment? (skipSpaces cs) with
  | some [] => some []
  | some cs => lineEnd? cs
  | none => none

/-- What follows spaces, comments and line ends. The fuel bounds the number of lines. -/
def skipGapsFrom? : Nat → List Char → Option (List Char)
  | 0, cs => some cs
  | fuel + 1, cs =>
    match skipComment? (skipSpaces cs) with
    | none => none
    | some cs =>
      match lineEnd? cs with
      | some cs => skipGapsFrom? fuel cs
      | none => some cs

/-- What follows spaces, comments and line ends. -/
def skipGaps? (cs : List Char) : Option (List Char) := skipGapsFrom? (cs.length + 1) cs

/-! ### Strings -/

/-- A character written by a fixed number of hexadecimal digits, and what follows them. -/
def hexEscape? (width : Nat) (cs : List Char) : Option (Char × List Char) :=
  let digits := cs.take width
  if digits.length = width then
    (digitsValue? 16 digits >>= scalar?).map (·, cs.drop width)
  else none

/-- The character of an escape whose backslash was read, and what follows the escape. -/
def escape? : List Char → Option (Char × List Char)
  | 'b' :: cs => some ('\x08', cs)
  | 't' :: cs => some ('\t', cs)
  | 'n' :: cs => some ('\n', cs)
  | 'f' :: cs => some ('\x0c', cs)
  | 'r' :: cs => some ('\r', cs)
  | 'e' :: cs => some ('\x1b', cs)
  | '"' :: cs => some ('"', cs)
  | '\\' :: cs => some ('\\', cs)
  | 'x' :: cs => hexEscape? 2 cs
  | 'u' :: cs => hexEscape? 4 cs
  | 'U' :: cs => hexEscape? 8 cs
  | _ => none

/-- A character in front of a string that was read. -/
def consRead (c : Char) (read : List Char × List Char) : List Char × List Char :=
  (c :: read.1, read.2)

/-- A string with escapes up to its closing quote, and what follows. The fuel bounds the number of
characters. -/
def takeBasic? : Nat → List Char → Option (List Char × List Char)
  | 0, _ => none
  | _ + 1, [] => none
  | fuel + 1, c :: cs =>
    if c = '"' then some ([], cs)
    else if c = '\\' then
      match escape? cs with
      | some (d, cs) => (takeBasic? fuel cs).map (consRead d)
      | none => none
    else if isControl c then none
    else (takeBasic? fuel cs).map (consRead c)

/-- A string without escapes up to its closing quote, and what follows. -/
def takeLiteral? (cs : List Char) : Option (List Char × List Char) :=
  let body := cs.takeWhile (· != '\'')
  match cs.dropWhile (· != '\'') with
  | [] => none
  | _ :: rest => if body.any isControl then none else some (body, rest)

/-- The quotes behind three closing ones that still belong to the string, at most two of them, and
what follows. -/
def trailingQuotes (quote : Char) (cs : List Char) : List Char × List Char :=
  let extra := (cs.take 2).takeWhile (· == quote)
  (extra, cs.drop extra.length)

/-- What follows the spaces and line ends at the start. -/
def skipBlankLines : List Char → List Char
  | '\r' :: '\n' :: cs => skipBlankLines cs
  | c :: cs => if isSpace c || c == '\n' then skipBlankLines cs else c :: cs
  | [] => []

/-- What follows an escaped line end, which takes the spaces and line ends behind it along. -/
def joinLines? (cs : List Char) : Option (List Char) :=
  (lineEnd? (skipSpaces cs)).map skipBlankLines

/-- A string over several lines up to its three closing quotes, and what follows. Line ends belong
to it as they are written. With `escapes`, a backslash starts an escape. The fuel bounds the number
of characters. -/
def takeLines? (quote : Char) (escapes : Bool) : Nat → List Char → Option (List Char × List Char)
  | 0, _ => none
  | _ + 1, [] => none
  | fuel + 1, c :: cs =>
    match afterHead? [quote, quote, quote] (c :: cs) with
    | some rest => some (trailingQuotes quote rest)
    | none =>
      if escapes && c == '\\' then
        match joinLines? cs with
        | some rest => takeLines? quote escapes fuel rest
        | none =>
          match escape? cs with
          | some (d, rest) => (takeLines? quote escapes fuel rest).map (consRead d)
          | none => none
      else if isControl c && (lineEnd? (c :: cs)).isNone then none
      else (takeLines? quote escapes fuel cs).map (consRead c)

/-- A string whose three opening quotes were read. A line end right behind them does not
count. -/
def takeBlock? (quote : Char) (escapes : Bool) (cs : List Char) :
    Option (List Char × List Char) :=
  let cs := (lineEnd? cs).getD cs
  takeLines? quote escapes (cs.length + 1) cs

/-- A string on one line, in double quotes with escapes or in single quotes without. -/
def takeShort? : List Char → Option (List Char × List Char)
  | '"' :: cs => takeBasic? (cs.length + 1) cs
  | '\'' :: cs => takeLiteral? cs
  | _ => none

/-- A string, and what follows. -/
def takeString? (cs : List Char) : Option (List Char × List Char) :=
  match afterHead? "\"\"\"".toList cs, afterHead? "'''".toList cs with
  | some rest, _ => takeBlock? '"' true rest
  | none, some rest => takeBlock? '\'' false rest
  | none, none => takeShort? cs

/-! ### Keys -/

/-- The characters of a name without quotes. -/
def isBare (c : Char) : Bool := c.isAlphanum || c == '_' || c == '-'

/-- A name, bare or quoted, and what follows. -/
def takeName? (cs : List Char) : Option (String × List Char) :=
  let bare := cs.takeWhile isBare
  if bare.isEmpty then (takeShort? cs).map fun (name, rest) => (String.ofList name, rest)
  else some (String.ofList bare, cs.dropWhile isBare)

/-- Names with dots between them, and what follows. Spaces may stand around the dots. The fuel
bounds the number of names. -/
def takeNames? : Nat → List Char → Option (List String × List Char)
  | 0, _ => none
  | fuel + 1, cs =>
    match takeName? (skipSpaces cs) with
    | none => none
    | some (name, rest) =>
      match skipSpaces rest with
      | '.' :: rest => (takeNames? fuel rest).map fun (names, rest) => (name :: names, rest)
      | rest => some ([name], rest)

/-- How deeply tables and arrays may be nested. -/
def depthLimit : Nat := 80

/-- A key, and what follows. -/
def takePath? (cs : List Char) : Option (List String × List Char) :=
  (takeNames? (cs.length + 1) cs).filter fun (names, _) => names.length ≤ depthLimit

end LuaBinder.Toml
