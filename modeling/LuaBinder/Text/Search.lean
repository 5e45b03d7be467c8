/-!
Searching a text for a fixed pattern.

* `afterHead?`: what follows a pattern at the very start.
* `splitFirst?`, `splitLast?`: the two sides of the first and of the last occurrence.
* `afterLast`: the part behind the last occurrence, or the whole text.
-/

namespace LuaBinder.Text

/-- What follows `pattern` when the list starts with it. -/
def afterHead? (pattern cs : List Char) : Option (List Char) :=
  match pattern, cs with
  | [], cs => some cs
  | _ :: _, [] => none
  | p :: ps, c :: cs => if p = c then afterHead? ps cs else none

/-- The pattern stands at the head exactly when it and what follows make up the list. -/
theorem afterHead?_eq_some_iff {pattern cs rest : List Char} :
    afterHead? pattern cs = some rest ↔ cs = pattern ++ rest := by
  induction pattern generalizing cs with
  | nil => simp [afterHead?, eq_comm]
  | cons p ps ih =>
    cases cs with
    | nil => simp [afterHead?]
    | cons c cs =>
      by_cases h : p = c
      · simp [afterHead?, h, ih]
      · simp [afterHead?, h, Ne.symm h]

/-- The two sides of the first occurrence of `pattern`. -/
def splitFirst? (pattern : List Char) : List Char → Option (List Char × List Char)
  | [] => (afterHead? pattern []).map ([], ·)
  | c :: cs =>
    match afterHead? pattern (c :: cs) with
    | some rest => some ([], rest)
    | none => (splitFirst? pattern cs).map fun (before, rest) => (c :: before, rest)

/-- Nothing is lost around the first occurrence. -/
theorem eq_of_splitFirst? {pattern cs before rest : List Char}
    (h : splitFirst? pattern cs = some (before, rest)) : cs = before ++ pattern ++ rest := by
  induction cs generalizing before with
  | nil =>
    rw [splitFirst?] at h
    obtain ⟨r, hr, he⟩ := Option.map_eq_some_iff.1 h
    simp only [Prod.mk.injEq] at he
    obtain ⟨rfl, rfl⟩ := he
    simpa using afterHead?_eq_some_iff.1 hr
  | cons c cs ih =>
    rw [splitFirst?] at h
    split at h
    · next r hr =>
      simp only [Option.some.injEq, Prod.mk.injEq] at h
      obtain ⟨rfl, rfl⟩ := h
      simpa using afterHead?_eq_some_iff.1 hr
    · obtain ⟨⟨b, r⟩, hs, he⟩ := Option.map_eq_some_iff.1 h
      simp only [Prod.mk.injEq] at he
      obtain ⟨rfl, rfl⟩ := he
      simp [ih hs]

/-- The two sides of the last occurrence of `pattern`. -/
def splitLast? (pattern : List Char) : List Char → Option (List Char × List Char)
  | [] => (afterHead? pattern []).map ([], ·)
  | c :: cs =>
    match splitLast? pattern cs with
    | some (before, rest) => some (c :: before, rest)
    | none => (afterHead? pattern (c :: cs)).map ([], ·)

/-- Nothing is lost around the last occurrence. -/
theorem eq_of_splitLast? {pattern cs before rest : List Char}
    (h : splitLast? pattern cs = some (before, rest)) : cs = before ++ pattern ++ rest := by
  induction cs generalizing before with
  | nil =>
    rw [splitLast?] at h
    obtain ⟨r, hr, he⟩ := Option.map_eq_some_iff.1 h
    simp only [Prod.mk.injEq] at he
    obtain ⟨rfl, rfl⟩ := he
    simpa using afterHead?_eq_some_iff.1 hr
  | cons c cs ih =>
    rw [splitLast?] at h
    split at h
    · next b r hs =>
      simp only [Option.some.injEq, Prod.mk.injEq] at h
      obtain ⟨rfl, rfl⟩ := h
      simp [ih hs]
    · obtain ⟨r, hr, he⟩ := Option.map_eq_some_iff.1 h
      simp only [Prod.mk.injEq] at he
      obtain ⟨rfl, rfl⟩ := he
      simpa using afterHead?_eq_some_iff.1 hr

/-- What follows the last occurrence of `pattern`, the whole text when there is none. -/
def afterLast (pattern s : String) : String :=
  match splitLast? pattern.toList s.toList with
  | some (_, rest) => String.ofList rest
  | none => s

/-- Whether `pattern` occurs in the text. -/
def occurs (pattern s : String) : Bool := (splitFirst? pattern.toList s.toList).isSome

/-- Number of bytes that the characters take in UTF-8. -/
def byteCount (cs : List Char) : Nat := cs.foldl (fun count c => count + c.utf8Size) 0

/-- Whether the text starts with `pattern`. -/
def startsWith (pattern s : String) : Bool := (afterHead? pattern.toList s.toList).isSome

/-- Whether the last character of the text is `c`. -/
def endsWith (c : Char) (s : String) : Bool := s.toList.getLast? == some c

end LuaBinder.Text
