import LuaBinder.Toml.Scalar
import LuaBinder.Toml.Text

/-!
Configuration documents: headers and pairs, one on a line.

* `takeValue?`: a value, which nests arrays and tables up to a limit.
* `takeStatement?`: a header or a pair.
* `parse?`: the table of a document.
-/

namespace LuaBinder.Toml

/-! ### Values -/

/-- A pair, and what follows. What may stand around its equals sign is skipped by `skip?`. -/
def takePair? (skip? : List Char → Option (List Char))
    (value? : List Char → Option (Value × List Char)) (cs : List Char) :
    Option ((List String × Value) × List Char) := do
  let (path, rest) ← takePath? cs
  let rest ← skip? rest >>= Text.afterHead? ['=']
  let (value, rest) ← skip? rest >>= value?
  return ((path, value), rest)

/-- Items with commas between them up to a closing character, and what follows. A comma may stand
behind the last one. The fuel bounds the number of items. -/
def takeItems? {α : Type} (item? : List Char → Option (α × List Char)) (close : Char) :
    Nat → List Char → Option (List α × List Char)
  | 0, _ => none
  | fuel + 1, cs =>
    match skipGaps? cs with
    | none | some [] => none
    | some (c :: cs) =>
      if c = close then some ([], cs)
      else
        match item? (c :: cs) with
        | none => none
        | some (item, rest) =>
          match skipGaps? rest with
          | some (',' :: rest) =>
            (takeItems? item? close fuel rest).map fun (items, rest) => (item :: items, rest)
          | some (d :: rest) => if d = close then some ([item], rest) else none
          | _ => none

/-- A value, and what follows. A pair in braces may be spread over lines around its equals sign.
The fuel bounds how deeply values are nested. -/
def takeValue? : Nat → List Char → Option (Value × List Char)
  | depth, '[' :: cs =>
    match depth with
    | 0 => none
    | depth + 1 =>
      (takeItems? (takeValue? depth) ']' (cs.length + 1) cs).map fun (items, rest) =>
        (.array items, rest)
  | depth, '\x7b' :: cs =>
    match depth with
    | 0 => none
    | depth + 1 => do
      let pair? := takePair? skipGaps? (takeValue? depth)
      let (pairs, rest) ← takeItems? pair? '\x7d' (cs.length + 1) cs
      let entries ← ofPairs? pairs
      return (.table .braced entries, rest)
  | _, cs =>
    match cs.head? with
    | some '"' | some '\'' =>
      (takeString? cs).map fun (text, rest) => (.string (String.ofList text), rest)
    | _ => takeScalar? cs

/-! ### Statements -/

/-- The path of a header up to its closing brackets, and what follows. -/
def takeHeader? (close : List Char) (cs : List Char) : Option (List String × List Char) :=
  match takePath? cs with
  | none => none
  | some (path, rest) => (Text.afterHead? close rest).map (path, ·)

/-- A header or a pair, and what follows. -/
def takeStatement? : List Char → Option (Statement × List Char)
  | '[' :: '[' :: cs => (takeHeader? [']', ']'] cs).map fun (path, rest) => (.row path, rest)
  | '[' :: cs => (takeHeader? [']'] cs).map fun (path, rest) => (.table path, rest)
  | cs =>
    (takePair? (some ∘ skipSpaces) (takeValue? depthLimit) cs).map fun ((path, value), rest) =>
      (.pair path value, rest)

/-- The statements of a document. The fuel bounds their number. -/
def takeStatements? : Nat → List Char → Option (List Statement)
  | 0, _ => none
  | fuel + 1, cs =>
    match skipGaps? cs with
    | none => none
    | some [] => some []
    | some (c :: cs) => do
      let (statement, rest) ← takeStatement? (c :: cs)
      let rest ← endLine? rest
      let statements ← takeStatements? fuel rest
      return statement :: statements

/-! ### Documents -/

/-- A text without its byte order mark. -/
def withoutMark : List Char → List Char
  | '\ufeff' :: cs => cs
  | cs => cs

/-- The table of a document, absent when the text is none. -/
def parse? (s : String) : Option Table :=
  let cs := withoutMark s.toList
  takeStatements? (cs.length + 1) cs >>= ofStatements?

end LuaBinder.Toml
