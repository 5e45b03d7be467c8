/-!
Blank characters and what they separate.

* `isBlank`: the characters with the Unicode property White_Space.
* `trim`, `isBlankText`: text without the blanks around it, and text that is nothing else.
* `pieces`: a list cut at every separator, empty pieces kept.
* `words`, `collapse`: the maximal blank-free runs of a text, and the text that joins them
  with single spaces.
-/

namespace LuaBinder.Text

/-! ### Blank characters -/

/-- The characters with the Unicode property White_Space. -/
def isBlank (c : Char) : Bool :=
  let n := c.toNat
  (9 ≤ n && n ≤ 13) || n == 0x20 || n == 0x85 || n == 0xA0 || n == 0x1680
    || (0x2000 ≤ n && n ≤ 0x200A) || n == 0x2028 || n == 0x2029 || n == 0x202F
    || n == 0x205F || n == 0x3000

/-- A list of characters without the blanks at its two ends. -/
def trimChars (cs : List Char) : List Char :=
  ((cs.dropWhile isBlank).reverse.dropWhile isBlank).reverse

/-- A text without the blanks at its two ends. -/
def trim (s : String) : String := String.ofList (trimChars s.toList)

/-- Whether a text holds nothing but blanks. -/
def isBlankText (s : String) : Bool := s.toList.all isBlank

/-- The trimmed text, unless nothing is left of it. -/
def nonBlank? (s : String) : Option String :=
  let t := trim s
  if t.isEmpty then none else some t

/-! ### Pieces and words -/

/-- A list cut at every element that satisfies `isSep`. The cuts are not part of any piece,
pieces may be empty, and there is always at least one. -/
def pieces {α : Type} (isSep : α → Bool) : List α → List (List α)
  | [] => [[]]
  | c :: cs =>
    if isSep c then [] :: pieces isSep cs
    else match pieces isSep cs with
      | [] => [[c]]
      | p :: ps => (c :: p) :: ps

/-- There is always a piece. -/
theorem pieces_ne_nil {α : Type} (isSep : α → Bool) (cs : List α) : pieces isSep cs ≠ [] := by
  cases cs with
  | nil => simp [pieces]
  | cons c cs =>
    rw [pieces]
    split
    · simp
    · split <;> simp

/-- The maximal runs of characters that are not blank. -/
def wordChars (cs : List Char) : List (List Char) :=
  (pieces isBlank cs).filter (! ·.isEmpty)

/-- The maximal blank-free runs of a text. -/
def words (s : String) : List String := (wordChars s.toList).map String.ofList

/-- The words of a text, one space between two of them. -/
def collapse (s : String) : String := String.intercalate " " (words s)

end LuaBinder.Text
