import LuaBinder.Text.Blank
import LuaBinder.Text.Entity

/-!
Numbers of a configuration document.

The form of a text decides whether it is a number. Its value is a second question, which only those
ask that look at the number: the digits may belong to no decimal integer, an integer may need more
than 128 bits, and a decimal may round to infinity.

* `Scientific`: a decimal, and whether it rounds to a finite number.
* `Numeral`: a number by its form; `Numeral.ofText?` reads it.
* `Numeral.hasValue`: whether the value exists.
-/

namespace LuaBinder.Toml

open LuaBinder.Text

/-! ### Digits -/

/-- The digits of a number in a base, without the underscores between them. -/
def groupedDigits? (base : Nat) (cs : List Char) : Option (List Char) :=
  let groups := pieces (· == '_') cs
  if groups.all fun g => ! g.isEmpty && g.all fun c => (digitValue? base c).isSome then
    some groups.flatten
  else none

/-- A number without its sign, and whether the sign is a minus. -/
def splitSign : List Char → Bool × List Char
  | '-' :: cs => (true, cs)
  | '+' :: cs => (false, cs)
  | cs => (false, cs)

/-- The integer with a magnitude and a sign. -/
def signed (negative : Bool) (n : Nat) : Int := if negative then - Int.ofNat n else Int.ofNat n

/-- A list cut at the first character that satisfies `p`, which belongs to neither side. -/
def cutAt? (p : Char → Bool) (cs : List Char) : Option (List Char × List Char) :=
  match cs.dropWhile (! p ·) with
  | [] => none
  | _ :: rest => some (cs.takeWhile (! p ·), rest)

/-! ### Decimals -/

/-- A decimal: its digits and the power of ten that they are multiplied with. -/
structure Scientific where
  digits : Nat
  exponent : Int
  deriving DecidableEq

namespace Scientific

/-- The mark in front of an exponent. -/
def isExponentMark (c : Char) : Bool := c == 'e' || c == 'E'

/-- The exponent behind its mark. -/
def exponent? (cs : List Char) : Option Int :=
  let (negative, digits) := splitSign cs
  (groupedDigits? 10 digits >>= digitsValue? 10).map (signed negative)

/-- The digits in front of the point, without a leading zero. -/
def wholeDigits? : List Char → Option (List Char)
  | '0' :: _ :: _ => none
  | cs => groupedDigits? 10 cs

/-- The decimal that a text without sign writes, which has a fraction, an exponent or both. -/
def ofText? (cs : List Char) : Option Scientific :=
  match cutAt? isExponentMark cs with
  | some (mantissa, power) => do
    let exponent ← exponent? power
    match cutAt? (· == '.') mantissa with
    | some (whole, part) => do
      let whole ← wholeDigits? whole
      let part ← groupedDigits? 10 part
      let digits ← digitsValue? 10 (whole ++ part)
      return { digits, exponent := exponent - part.length }
    | none => do
      let digits ← wholeDigits? mantissa >>= digitsValue? 10
      return { digits, exponent }
  | none => do
    let (whole, part) ← cutAt? (· == '.') cs
    let whole ← wholeDigits? whole
    let part ← groupedDigits? 10 part
    let digits ← digitsValue? 10 (whole ++ part)
    return { digits, exponent := - (part.length : Int) }

/-- The least number that rounds to infinity: half a unit above the greatest one with 53 binary
digits and an exponent below 1024. -/
def overflow : Nat := Nat.pow 2 1024 - Nat.pow 2 970

/-- The decimal rounds to a finite number. An exponent beyond the digits of `overflow` decides
without a computation. -/
def isFinite (s : Scientific) : Bool :=
  if s.digits = 0 then true
  else if 310 ≤ s.exponent then false
  else if 0 ≤ s.exponent then s.digits * Nat.pow 10 s.exponent.toNat < overflow
  else if (Nat.toDigits 10 s.digits).length < (-s.exponent).toNat + 300 then true
  else s.digits < overflow * Nat.pow 10 (-s.exponent).toNat

end Scientific

/-! ### Integers -/

/-- A digit of some base, as it must stand on both sides of an underscore. -/
def isAnyDigit (c : Char) : Bool := (digitValue? 16 c).isSome

/-- The groups behind the first underscore of a decimal integer start and end like digits; the last
one may end with anything. -/
def areGroups : List (List Char) → Bool
  | [] => true
  | [last] => last.head?.any isAnyDigit
  | g :: gs => g.head?.any isAnyDigit && g.getLast?.any isAnyDigit && areGroups gs

/-- The characters of a text that has the form of a decimal integer without sign, less its
underscores. Only what stands in front of the first underscore has to be digits, and a zero at the
start stands alone; no point and no exponent mark may follow. -/
def decimalForm? : List Char → Option (List Char)
  | ['0'] => some ['0']
  | '0' :: _ => none
  | cs =>
    match pieces (· == '_') cs with
    | [] => none
    | first :: rest =>
      let leads := ! first.isEmpty && first.all Char.isDigit
      let marked := cs.any fun c => c == '.' || Scientific.isExponentMark c
      if leads && ! marked && areGroups rest then some (first ++ rest.flatten) else none

/-- The digits behind the mark of a base. There may be none of them. -/
def baseForm? (base : Nat) (cs : List Char) : Option (List Char) :=
  if cs.isEmpty then some [] else groupedDigits? base cs

/-- The integer fits into 128 bits, with a sign if it needs one. -/
def inRange (n : Int) : Bool := - Int.pow 2 127 ≤ n && n < Int.pow 2 128

/-! ### Numbers -/

/-- A number by its form: the digits of an integer in a base, a decimal, an infinity, or what is no
number in spite of its form. -/
inductive Numeral where
  | integer (base : Nat) (negative : Bool) (digits : List Char)
  | decimal (negative : Bool) (s : Scientific)
  | infinity (negative : Bool)
  | undefined
  deriving DecidableEq

namespace Numeral

/-- The number that a text writes. An integer in hexadecimal, octal or binary has no sign. -/
def ofText? : List Char → Option Numeral
  | '0' :: 'x' :: cs => (baseForm? 16 cs).map (.integer 16 false)
  | '0' :: 'o' :: cs => (baseForm? 8 cs).map (.integer 8 false)
  | '0' :: 'b' :: cs => (baseForm? 2 cs).map (.integer 2 false)
  | cs =>
    let (negative, body) := splitSign cs
    if body == "inf".toList then some (.infinity negative)
    else if body == "nan".toList then some .undefined
    else
      match decimalForm? body with
      | some digits => some (.integer 10 negative digits)
      | none => (Scientific.ofText? body).map (.decimal negative)

/-- The number has a value. -/
def hasValue : Numeral → Bool
  | .integer base negative digits => (number? base digits).any fun n => inRange (signed negative n)
  | .decimal _ s => s.isFinite
  | .infinity _ => true
  | .undefined => true

end Numeral

end LuaBinder.Toml
