import LuaBinder.Lua.Conversion
import LuaBinder.Proofs.Text.Words

/-!
The spellings of the integer types.

A declared type is read by its words, and only they and the number of stars decide how a value is
converted. Of the spellings of integer types with a sign in front, the tables leave out three.

* `DeclaredType.typeWords`, `DeclaredType.bareWords`: the words of a type, and those that are no
  qualifiers; see `DeclaredType.base_ofText` and `DeclaredType.stars_ofText`.
* `Conversion.ofType?_congr`: the base type and the stars decide.
* `integerSpellings`: a sign alone, or a kind of integer with a sign in front or without.
* `integer_spellings_iff`: which of them are read as integers, however they are qualified and laid
  out; the others become objects.
-/

namespace LuaBinder

open Text

/-! ### Words of a type -/

namespace DeclaredType

/-- What stands between the words of a type: blanks, stars and ampersands. -/
def isTypeBreak (c : Char) : Bool := isBlank c || c == '*' || c == '&'

/-- The words of the text of a type. -/
def typeWords (raw : String) : List String := (runs isTypeBreak raw.toList).map String.ofList

/-- The words of the text of a type that are no qualifiers. -/
def bareWords (raw : String) : List String := (typeWords raw).filter (! qualifiers.contains ·)

/-- The blanks in the text of a type do not matter, and neither do the places of the stars and the
ampersands. -/
lemma baseWords_ofText (raw : String) : (ofText raw).baseWords = bareWords raw := by
  have hbreak : ∀ c, isBlank (if c == '*' || c == '&' then ' ' else c) = isTypeBreak c := by
    intro c
    rw [isTypeBreak, Bool.or_assoc]
    cases c == '*' || c == '&' with
    | true => rw [Bool.or_true]; rfl
    | false => rw [Bool.or_false]; rfl
  have hkeep : ∀ c, isTypeBreak c = false → (if c == '*' || c == '&' then ' ' else c) = c := by
    intro c hc
    rw [isTypeBreak, Bool.or_assoc, Bool.or_eq_false_iff] at hc
    rw [hc.2]
    rfl
  have hblank : ∀ c, isBlank c = true → isTypeBreak c = true := by
    intro c hc
    rw [isTypeBreak, hc]
    rfl
  have hruns : wordChars (withoutIndirection (collapse raw).toList) = runs isTypeBreak raw.toList :=
    (runs_map hbreak hkeep _).trans (runs_collapse hblank raw)
  rw [baseWords, words, String.toList_ofList, ofText, hruns, bareWords, typeWords]

lemma base_ofText (raw : String) : (ofText raw).base = " ".intercalate (bareWords raw) := by
  rw [base, baseWords_ofText]

lemma stars_ofText (raw : String) : (ofText raw).stars = raw.toList.count '*' :=
  count_collapse (by decide) raw

end DeclaredType

namespace Lua

open DeclaredType

/-- The base type and the number of stars decide how a value is converted. -/
lemma Conversion.ofType?_congr {t u : DeclaredType} (hbase : t.base = u.base)
    (hstars : t.stars = u.stars) : Conversion.ofType? t = Conversion.ofType? u := by
  rw [ofType?, ofType?, isString, isString, isNative, isNative, hbase, hstars]

/-! ### Integer types -/

/-- The kinds of integers. -/
def integerKinds : List (List String) := [["char"], ["short"], ["int"], ["long"], ["long", "long"]]

/-- The spellings of the integer types: a sign alone, or a kind with a sign in front or without. -/
def integerSpellings : List (List String) :=
  [["signed"], ["unsigned"]] ++ integerKinds
    ++ (integerKinds.map ("signed" :: ·) ++ integerKinds.map ("unsigned" :: ·))

/-- The spellings that the tables of scalar types leave out. -/
def unlistedSpellings : List (List String) :=
  [["signed", "short"], ["signed", "long"], ["signed", "long", "long"]]

/-- **Spellings of integers.** A type without stars whose words, without the qualifiers, spell an
integer type is a scalar and converted as an integer of this spelling exactly when the spelling is
not one of the three that are left out. These are taken for classes. -/
theorem integer_spellings_iff (raw : String) (hstar : '*' ∉ raw.toList)
    (hspelling : bareWords raw ∈ integerSpellings) :
    (((ofText raw).isNative = true
        ∧ Conversion.ofType? (ofText raw) = some (.integer (" ".intercalate (bareWords raw))))
      ↔ bareWords raw ∉ unlistedSpellings)
    ∧ (bareWords raw ∈ unlistedSpellings → (ofText raw).isNative = false
        ∧ Conversion.ofType? (ofText raw)
          = some (.object (" ".intercalate (bareWords raw)) false)) := by
  have hstars : (ofText raw).stars = 0 := by rw [stars_ofText, List.count_eq_zero_of_not_mem hstar]
  have hbase := base_ofText raw
  generalize bareWords raw = spelling at hbase hspelling ⊢
  -- the type is read like the bare spelling, of which there are finitely many
  have hbare : ∀ spelling ∈ integerSpellings, (ofText (" ".intercalate spelling)).stars = 0
      ∧ (ofText (" ".intercalate spelling)).base = " ".intercalate spelling := by decide +kernel
  obtain ⟨hzero, hsame⟩ := hbare spelling hspelling
  have hnative : (ofText raw).isNative = (ofText (" ".intercalate spelling)).isNative := by
    rw [isNative, isNative, hbase, hsame]
  rw [hnative, Conversion.ofType?_congr (hbase.trans hsame.symm) (hstars.trans hzero.symm)]
  clear * - hspelling
  revert spelling
  decide +kernel

/-- Qualifiers may stand anywhere, and an ampersand next to a word. -/
theorem integer_spellings_long :
    '*' ∉ "const  unsigned\tlong volatile long&".toList
      ∧ bareWords "const  unsigned\tlong volatile long&" = ["unsigned", "long", "long"]
      ∧ (ofText "const  unsigned\tlong volatile long&").isNative = true
      ∧ Conversion.ofType? (ofText "const  unsigned\tlong volatile long&")
        = some (.integer "unsigned long long") := by
  have hwords : bareWords "const  unsigned\tlong volatile long&" = ["unsigned", "long", "long"] := by
    decide +kernel
  have hspelling := (integer_spellings_iff "const  unsigned\tlong volatile long&" (by decide)
    (by rw [hwords]; decide)).1
  rw [hwords] at hspelling
  exact ⟨by decide, hwords, hspelling.mpr (by decide)⟩

/-- A short integer with its sign spelled out is taken for a class. -/
theorem signed_short_no_integer :
    '*' ∉ "signed short".toList ∧ bareWords "signed short" ∈ integerSpellings
      ∧ (ofText "signed short").isNative = false
      ∧ Conversion.ofType? (ofText "signed short") = some (.object "signed short" false) := by
  decide +kernel

end Lua

end LuaBinder
