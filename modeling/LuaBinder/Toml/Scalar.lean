import LuaBinder.Text.Search
import LuaBinder.Toml.Table

/-!
Values without quotes and brackets: truth values, numbers, dates and times.

* `isMoment`: a date, a time, or both with an optional offset.
* `scalarOf?`: the value that a text writes.
* `takeScalar?`: such a value at the start of a text.
-/

namespace LuaBinder.Toml

open LuaBinder.Text

/-! ### Dates and times -/

/-- A number of a fixed count of digits at the start, and what follows. -/
def takeCount? (width : Nat) (cs : List Char) : Option (Nat × List Char) :=
  let digits := cs.take width
  if digits.length = width then (digitsValue? 10 digits).map (·, cs.drop width) else none

/-- The year has a 29th of February. -/
def isLeap (year : Nat) : Bool := year % 4 == 0 && (year % 100 != 0 || year % 400 == 0)

/-- Number of days of a month. -/
def daysOf (year month : Nat) : Nat :=
  if month = 2 then (if isLeap year then 29 else 28)
  else if month = 4 ∨ month = 6 ∨ month = 9 ∨ month = 11 then 30
  else 31

/-- What follows a date. -/
def skipDate? (cs : List Char) : Option (List Char) := do
  let (year, cs) ← takeCount? 4 cs
  let cs ← afterHead? ['-'] cs
  let (month, cs) ← takeCount? 2 cs
  let cs ← afterHead? ['-'] cs
  let (day, cs) ← takeCount? 2 cs
  if 1 ≤ month && month ≤ 12 && 1 ≤ day && day ≤ daysOf year month then some cs else none

/-- What follows the seconds of a time and their fraction, both of which may be missing. -/
def skipSeconds? : List Char → Option (List Char)
  | ':' :: cs => do
    let (second, cs) ← takeCount? 2 cs
    if 60 < second then none
    else
      match cs with
      | '.' :: cs =>
        if cs.head?.any Char.isDigit then some (cs.dropWhile Char.isDigit) else none
      | cs => some cs
  | cs => some cs

/-- What follows the hours and minutes of a day. -/
def skipMinutes? (cs : List Char) : Option (List Char) := do
  let (hour, cs) ← takeCount? 2 cs
  let cs ← afterHead? [':'] cs
  let (minute, cs) ← takeCount? 2 cs
  if hour ≤ 23 && minute ≤ 59 then some cs else none

/-- What follows a time of day. -/
def skipTime? (cs : List Char) : Option (List Char) := skipMinutes? cs >>= skipSeconds?

/-- What follows the offset of a time, which may be missing and stays below a day. -/
def skipOffset? : List Char → Option (List Char)
  | [] => some []
  | 'Z' :: cs => some cs
  | 'z' :: cs => some cs
  | c :: cs => if c == '+' || c == '-' then skipMinutes? cs else none

/-- The characters that stand between a date and a time. -/
def joinsMoment (c : Char) : Bool := c == 'T' || c == 't' || c == ' '

/-- The text is a date, a time, or a date and a time with an optional offset. -/
def isMoment (cs : List Char) : Bool :=
  match skipDate? cs with
  | some [] => true
  | some (c :: rest) => joinsMoment c && ((skipTime? rest).bind skipOffset?) == some []
  | none => skipTime? cs == some []

/-! ### Reading -/

/-- The value that a text without quotes and brackets writes. -/
def scalarOf? (cs : List Char) : Option Value :=
  if cs == "true".toList then some (.boolean true)
  else if cs == "false".toList then some (.boolean false)
  else
    match Numeral.ofText? cs with
    | some n => some (.number n)
    | none => if isMoment cs then some (.moment (String.ofList cs)) else none

/-- The characters that may belong to a value without quotes and brackets, apart from the space in
a moment: all but those that the layout and the other values of a document consist of. -/
def isScalarChar (c : Char) : Bool :=
  ! ['=', ',', '[', ']', '\x7b', '\x7d', ' ', '\t', '#', '\r', '\n'].contains c

/-- The longest run that may be one value. A date goes on over a single space in front of a
digit. -/
def splitScalar (cs : List Char) : List Char × List Char :=
  let run := cs.takeWhile isScalarChar
  match skipDate? run, cs.dropWhile isScalarChar with
  | some [], ' ' :: d :: rest =>
    if d.isDigit then
      let time := (d :: rest).takeWhile isScalarChar
      (run ++ ' ' :: time, (d :: rest).dropWhile isScalarChar)
    else (run, ' ' :: d :: rest)
  | _, rest => (run, rest)

/-- A value without quotes and brackets, and what follows. -/
def takeScalar? (cs : List Char) : Option (Value × List Char) :=
  let (run, rest) := splitScalar cs
  (scalarOf? run).map (·, rest)

end LuaBinder.Toml
