/-!
Character references and their decoding.

A reference is an ampersand, a name of at most nine characters and a semicolon. The name is one
of six words, or a number sign and a code point in decimal, or a number sign, an `x` and a code
point in hexadecimal.

* `decodeName`: the character that a name stands for.
* `reference?`: a reference at the start of a list, the ampersand already read.
* `unescape`: one pass over a text; what is no reference stays as it is.
-/

namespace LuaBinder.Text

/-! ### Numbers -/

/-- The value of a digit in a base up to sixteen. -/
def digitValue? (base : Nat) (c : Char) : Option Nat :=
  let value? :=
    if '0' ≤ c && c ≤ '9' then some (c.toNat - '0'.toNat)
    else if 'a' ≤ c && c ≤ 'f' then some (c.toNat - 'a'.toNat + 10)
    else if 'A' ≤ c && c ≤ 'F' then some (c.toNat - 'A'.toNat + 10)
    else none
  value?.filter (· < base)

/-- The number written by a list of digits, the most significant first. -/
def digitsValue? (base : Nat) (cs : List Char) : Option Nat :=
  cs.foldlM (fun value c => (digitValue? base c).map (value * base + ·)) 0

/-- A number with at least one digit. -/
def number? (base : Nat) (cs : List Char) : Option Nat :=
  if cs.isEmpty then none else digitsValue? base cs

/-- A number with at least one digit, after an optional plus sign. -/
def signedNumber? (base : Nat) : List Char → Option Nat
  | '+' :: cs => number? base cs
  | cs => number? base cs

/-- The character with a code point, if the code point is a Unicode scalar value. -/
def scalar? (n : Nat) : Option Char :=
  if h : n.isValidChar then some (Char.ofNatAux n h) else none

/-! ### References -/

/-- The character that the name of a reference stands for. -/
def decodeName : List Char → Option Char
  | ['a', 'm', 'p'] => some '&'
  | ['l', 't'] => some '<'
  | ['g', 't'] => some '>'
  | ['q', 'u', 'o', 't'] => some '"'
  | ['a', 'p', 'o', 's'] => some '\''
  | ['n', 'b', 's', 'p'] => some '\u00a0'
  | '#' :: 'x' :: digits => signedNumber? 16 digits >>= scalar?
  | '#' :: 'X' :: digits => signedNumber? 16 digits >>= scalar?
  | '#' :: digits => signedNumber? 10 digits >>= scalar?
  | _ => none

/-- The longest name that a reference may have. -/
def longestName : Nat := 9

/-- The list up to the first semicolon, and what follows that semicolon. -/
def splitSemicolon? : List Char → Option (List Char × List Char)
  | [] => none
  | c :: cs =>
    if c = ';' then some ([], cs)
    else (splitSemicolon? cs).map fun (name, rest) => (c :: name, rest)

/-- The character of a reference whose ampersand was read, and what follows the reference. -/
def reference? (cs : List Char) : Option (Char × List Char) :=
  match splitSemicolon? cs with
  | none => none
  | some (name, rest) =>
    if name.length ≤ longestName then (decodeName name).map (·, rest) else none

/-- What follows the semicolon is shorter than the whole. -/
theorem length_splitSemicolon? {cs name rest : List Char}
    (h : splitSemicolon? cs = some (name, rest)) : rest.length < cs.length := by
  induction cs generalizing name with
  | nil => simp [splitSemicolon?] at h
  | cons c cs ih =>
    rw [splitSemicolon?] at h
    split at h
    · simp_all
    · obtain ⟨⟨n, r⟩, hn, he⟩ := Option.map_eq_some_iff.1 h
      simp only [Prod.mk.injEq] at he
      obtain ⟨-, rfl⟩ := he
      exact Nat.lt_succ_of_lt (ih hn)

/-- What follows a reference is shorter than what follows its ampersand. -/
theorem length_reference? {cs rest : List Char} {c : Char}
    (h : reference? cs = some (c, rest)) : rest.length < cs.length := by
  rw [reference?] at h
  split at h
  · simp at h
  · next name r hs =>
    split at h
    · obtain ⟨d, _, he⟩ := Option.map_eq_some_iff.1 h
      simp only [Prod.mk.injEq] at he
      exact he.2 ▸ length_splitSemicolon? hs
    · simp at h

/-! ### Decoding a text -/

/-- Every reference replaced by its character, in one pass. -/
def unescapeChars : List Char → List Char
  | [] => []
  | c :: cs =>
    if c = '&' then
      match _h : reference? cs with
      | some (d, rest) => d :: unescapeChars rest
      | none => '&' :: unescapeChars cs
    else c :: unescapeChars cs
termination_by cs => cs.length
decreasing_by
  all_goals simp only [List.length_cons]
  · have := length_reference? _h
    omega
  · omega
  · omega

/-- A text with every reference replaced by its character. -/
def unescape (s : String) : String := String.ofList (unescapeChars s.toList)

end LuaBinder.Text
