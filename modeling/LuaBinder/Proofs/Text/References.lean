import Mathlib.Data.List.Forall2
import Mathlib.Tactic
import LuaBinder.Text.Entity

/-!
Character references, written in any way and read back.

* `Encodes`: the ways to write a character: as it stands, by its name, or by its code point in
  decimal or in hexadecimal.
* `digitsValue?_toDigits`, `digitsValue?_of_sameDigits`: the digits of a number have this number as
  their value, in either letter case.
* `reference?_of_names`: a reference is read up to its own semicolon, whatever follows it.
* `unescapeChars_append`: what a character is written as is read back as this character, and reading
  goes on behind it.
* `encodes_decimal`, `encodes_hexadecimal`: the bound on the length of a reference leaves room for
  the code point of every character.
* `unescape_encoded`: a text is read back from any mixture of ways to write its characters.
-/

namespace LuaBinder.Text

/-! ### Ways to write a character -/

/-- The characters that have a name, with their names. -/
def namedReferences : List (Char × List Char) :=
  [('&', ['a', 'm', 'p']), ('<', ['l', 't']), ('>', ['g', 't']), ('"', ['q', 'u', 'o', 't']),
   ('\'', ['a', 'p', 'o', 's']), ('\u00a0', ['n', 'b', 's', 'p'])]

/-- A digit in either letter case. -/
def SameDigit (d e : Char) : Prop := d = e ∨ d = e.toUpper

/-- What may stand between the ampersand and the semicolon for a character: its name, or its code
point behind any number of zeros. -/
inductive Names (c : Char) : List Char → Prop
  | named {name : List Char} (h : (c, name) ∈ namedReferences) : Names c name
  | decimal (zeros : Nat) :
    Names c ('#' :: (List.replicate zeros '0' ++ Nat.toDigits 10 c.toNat))
  | hexadecimal {mark : Char} (hmark : mark = 'x' ∨ mark = 'X') (zeros : Nat) {digits : List Char}
    (h : List.Forall₂ SameDigit digits (Nat.toDigits 16 c.toNat)) :
    Names c ('#' :: mark :: (List.replicate zeros '0' ++ digits))

/-- A way to write a character: as itself, unless it is an ampersand, or as a reference with at most
ten characters in front of its semicolon. -/
inductive Encodes (c : Char) : List Char → Prop
  | plain (h : c ≠ '&') : Encodes c [c]
  | reference {name : List Char} (h : Names c name) (hlength : ('&' :: name).length ≤ 10) :
    Encodes c ('&' :: name ++ [';'])

/-! ### Digits -/

lemma digitValue?_digitChar {base k : Nat} (hbase : base ≤ 16) (hk : k < base) :
    digitValue? base k.digitChar = some k := by
  have hvalue : ∀ k < 16, digitValue? 16 (Nat.digitChar k) = some k := by decide
  have h := hvalue k (by omega)
  rw [digitValue?, Option.filter_eq_some_iff] at h ⊢
  exact ⟨h.1, by simpa using hk⟩

/-- A digit has the same value in either letter case. -/
lemma digitValue?_of_sameDigit {base k : Nat} {d : Char} (hbase : base ≤ 16) (hk : k < base)
    (h : SameDigit d k.digitChar) : digitValue? base d = some k := by
  rcases h with rfl | rfl
  · exact digitValue?_digitChar hbase hk
  · have hvalue : ∀ k < 16, digitValue? 16 (Nat.digitChar k).toUpper = some k := by decide
    have h := hvalue k (by omega)
    rw [digitValue?, Option.filter_eq_some_iff] at h ⊢
    exact ⟨h.1, by simpa using hk⟩

lemma mem_toDigits {base n : Nat} (hbase : 1 < base) {c : Char} (h : c ∈ Nat.toDigits base n) :
    ∃ k < base, c = k.digitChar := by
  induction n using Nat.strong_induction_on with
  | _ n ih =>
      rw [Nat.toDigits_eq_if hbase] at h
      split at h
      · next hn => exact ⟨n, hn, List.mem_singleton.mp h⟩
      · next hn =>
          rcases List.mem_append.mp h with h | h
          · exact ih (n / base) (Nat.div_lt_self (by omega) hbase) h
          · exact ⟨n % base, Nat.mod_lt n (by omega), List.mem_singleton.mp h⟩

lemma digitsValue?_append_singleton (base : Nat) (cs : List Char) (c : Char) :
    digitsValue? base (cs ++ [c])
      = (digitsValue? base cs).bind fun value => (digitValue? base c).map (value * base + ·) := by
  rw [digitsValue?, List.foldlM_append]
  cases h : digitsValue? base cs <;> rw [digitsValue?] at h <;> simp [h]

/-- The digits of a number have this number as their value. -/
lemma digitsValue?_toDigits {base : Nat} (hbase : 1 < base) (hle : base ≤ 16) (n : Nat) :
    digitsValue? base (Nat.toDigits base n) = some n := by
  induction n using Nat.strong_induction_on with
  | _ n ih =>
      rw [Nat.toDigits_eq_if hbase]
      split
      · next hn => simp [digitsValue?, digitValue?_digitChar hle hn]
      · next hn =>
          have hmod : n % base < base := Nat.mod_lt n (by omega)
          rw [digitsValue?_append_singleton, ih (n / base) (Nat.div_lt_self (by omega) hbase),
            digitValue?_digitChar hle hmod]
          simp [Nat.div_add_mod']

/-- Numerals that differ in letter case only have the same value. -/
lemma digitsValue?_of_sameDigits {base : Nat} (hle : base ≤ 16) {ds es : List Char}
    (h : List.Forall₂ SameDigit ds es) (hes : ∀ e ∈ es, ∃ k < base, e = k.digitChar) :
    digitsValue? base ds = digitsValue? base es := by
  have hfold : ∀ start : Nat,
      ds.foldlM (fun value c => (digitValue? base c).map (value * base + ·)) start
        = es.foldlM (fun value c => (digitValue? base c).map (value * base + ·)) start := by
    induction h with
    | nil => exact fun _ => rfl
    | cons hd _ ih =>
        obtain ⟨⟨k, hk, rfl⟩, hrest⟩ := List.forall_mem_cons.mp hes
        intro start
        simp only [List.foldlM_cons, digitValue?_of_sameDigit hle hk hd, digitValue?_digitChar hle hk,
          ih hrest]
  exact hfold 0

/-- Zeros in front do not count. -/
lemma digitsValue?_zeros {base : Nat} (hbase : 0 < base) (zeros : Nat) (cs : List Char) :
    digitsValue? base (List.replicate zeros '0' ++ cs) = digitsValue? base cs := by
  have hzero : digitValue? base '0' = some 0 := by simp [digitValue?, hbase]
  induction zeros with
  | zero => rfl
  | succ zeros ih =>
      rw [List.replicate_succ, List.cons_append, ← ih, digitsValue?, List.foldlM_cons, hzero]
      simp [digitsValue?]

/-- What is no digit stands in no number. -/
lemma not_mem_of_digitsValue? {base n : Nat} {cs : List Char} (h : digitsValue? base cs = some n)
    {c : Char} (hc : digitValue? base c = none) : c ∉ cs := by
  have hfold : ∀ start : Nat, c ∈ cs →
      cs.foldlM (fun value c => (digitValue? base c).map (value * base + ·)) start = none := by
    clear h
    induction cs with
    | nil => exact fun _ hmem => absurd hmem List.not_mem_nil
    | cons d ds ih =>
        intro start hmem
        rcases List.mem_cons.mp hmem with rfl | hmem
        · rw [List.foldlM_cons, hc]
          rfl
        · cases hd : digitValue? base d with
          | none => rw [List.foldlM_cons, hd]; rfl
          | some value => rw [List.foldlM_cons, hd]; exact ih _ hmem
  intro hmem
  rw [digitsValue?, hfold 0 hmem] at h
  cases h

section CodePoints

variable {n : Nat} {digits : List Char}

/-- The decimal digits of a code point behind zeros. -/
lemma digitsValue?_decimal (zeros n : Nat) :
    digitsValue? 10 (List.replicate zeros '0' ++ Nat.toDigits 10 n) = some n := by
  rw [digitsValue?_zeros (by decide), digitsValue?_toDigits (by decide) (by decide)]

/-- The hexadecimal digits of a code point behind zeros, each in either letter case. -/
lemma digitsValue?_hexadecimal (zeros : Nat)
    (h : List.Forall₂ SameDigit digits (Nat.toDigits 16 n)) :
    digitsValue? 16 (List.replicate zeros '0' ++ digits) = some n := by
  rw [digitsValue?_zeros (by decide),
    digitsValue?_of_sameDigits le_rfl h fun e he => mem_toDigits (by decide) he,
    digitsValue?_toDigits (by decide) le_rfl]

lemma zeros_append_ne_nil {base : Nat} (zeros : Nat)
    (h : digits.length = (Nat.toDigits base n).length) :
    List.replicate zeros '0' ++ digits ≠ [] := by
  have hpos : 0 < (Nat.toDigits base n).length := Nat.length_toDigits_pos
  intro hnil
  rw [(List.append_eq_nil_iff.mp hnil).2] at h
  exact absurd h.symm hpos.ne'

/-- Digits make a number without a sign. -/
lemma signedNumber?_of_digitsValue? {base : Nat} (hdigits : digits ≠ [])
    (h : digitsValue? base digits = some n) : signedNumber? base digits = some n := by
  have hplus : '+' ∉ digits := not_mem_of_digitsValue? h rfl
  cases digits with
  | nil => exact absurd rfl hdigits
  | cons d ds =>
      rw [List.mem_cons, not_or] at hplus
      rw [signedNumber?, number?, if_neg (by simp), h]
      rintro _ ⟨⟩
      exact hplus.1 rfl

end CodePoints

lemma scalar?_toNat (c : Char) : scalar? c.toNat = some c := by
  have h : c.toNat.isValidChar := c.valid
  rw [scalar?, dif_pos h]
  rfl

/-! ### Reading a reference -/

/-- Behind the number sign a digit starts a decimal number. -/
lemma decodeName_decimal {n : Nat} {digits : List Char} (hdigits : digits ≠ [])
    (h : digitsValue? 10 digits = some n) : decodeName ('#' :: digits) = scalar? n := by
  have hx : 'x' ∉ digits := not_mem_of_digitsValue? h (by decide)
  have hX : 'X' ∉ digits := not_mem_of_digitsValue? h (by decide)
  cases digits with
  | nil => exact absurd rfl hdigits
  | cons d ds =>
      rw [List.mem_cons, not_or] at hx hX
      rw [decodeName, signedNumber?_of_digitsValue? hdigits h]
      · rfl
      · rintro _ ⟨⟩
        exact hx.1 rfl
      · rintro _ ⟨⟩
        exact hX.1 rfl

lemma decodeName_hexadecimal {mark : Char} (hmark : mark = 'x' ∨ mark = 'X') {n : Nat}
    {digits : List Char} (hdigits : digits ≠ []) (h : digitsValue? 16 digits = some n) :
    decodeName ('#' :: mark :: digits) = scalar? n := by
  rcases hmark with rfl | rfl
  · rw [decodeName, signedNumber?_of_digitsValue? hdigits h]
    rfl
  · rw [decodeName, signedNumber?_of_digitsValue? hdigits h]
    rfl

section Names

variable {c : Char} {name : List Char}

/-- What names a character stands for it. -/
lemma Names.decodeName (h : Names c name) : Text.decodeName name = some c := by
  cases h with
  | named h =>
      simp only [namedReferences, List.mem_cons, Prod.mk.injEq, List.not_mem_nil, or_false] at h
      rcases h with ⟨rfl, rfl⟩ | ⟨rfl, rfl⟩ | ⟨rfl, rfl⟩ | ⟨rfl, rfl⟩ | ⟨rfl, rfl⟩ | ⟨rfl, rfl⟩ <;> rfl
  | decimal zeros =>
      rw [decodeName_decimal (zeros_append_ne_nil zeros rfl) (digitsValue?_decimal zeros c.toNat),
        scalar?_toNat]
  | hexadecimal hmark zeros h =>
      rw [decodeName_hexadecimal hmark (zeros_append_ne_nil zeros h.length_eq)
        (digitsValue?_hexadecimal zeros h), scalar?_toNat]

/-- What is no digit, no mark of a number and in no word stands in no name. -/
lemma Names.not_mem {d : Char} (h : Names c name) (hvalue : ∀ base, digitValue? base d = none)
    (hplain : ∀ entry ∈ namedReferences, d ∉ '#' :: 'x' :: 'X' :: entry.2) : d ∉ name := by
  have hmarks := hplain _ List.mem_cons_self
  simp only [List.mem_cons, not_or] at hmarks
  obtain ⟨hsign, hx, hX, -⟩ := hmarks
  cases h with
  | named h => exact fun hmem => hplain _ h (by simp [hmem])
  | decimal zeros =>
      rw [List.mem_cons, not_or]
      exact ⟨hsign, not_mem_of_digitsValue? (digitsValue?_decimal zeros c.toNat) (hvalue 10)⟩
  | @hexadecimal mark hmark zeros digits h =>
      have hne : d ≠ mark := by
        rcases hmark with rfl | rfl
        · exact hx
        · exact hX
      rw [List.mem_cons, List.mem_cons, not_or, not_or]
      exact ⟨hsign, hne, not_mem_of_digitsValue? (digitsValue?_hexadecimal zeros h) (hvalue 16)⟩

lemma Names.semicolon_not_mem (h : Names c name) : ';' ∉ name :=
  h.not_mem (fun _ => rfl) (by decide)

end Names

/-- A text is cut at its first semicolon. -/
lemma splitSemicolon?_append {name : List Char} (h : ';' ∉ name) (rest : List Char) :
    splitSemicolon? (name ++ ';' :: rest) = some (name, rest) := by
  induction name with
  | nil => rfl
  | cons c name ih =>
      rw [List.mem_cons, not_or] at h
      rw [List.cons_append, splitSemicolon?, if_neg (Ne.symm h.1), ih h.2]
      rfl

/-- A reference is read up to its own semicolon, whatever follows it. -/
lemma reference?_of_names {c : Char} {name : List Char} (h : Names c name)
    (hlength : ('&' :: name).length ≤ 10) (rest : List Char) :
    reference? (name ++ ';' :: rest) = some (c, rest) := by
  have hname : name.length ≤ longestName := by
    rw [List.length_cons] at hlength
    exact Nat.le_of_succ_le_succ hlength
  rw [reference?, splitSemicolon?_append h.semicolon_not_mem]
  simp only [if_pos hname, h.decodeName, Option.map_some]

/-! ### Reading a text -/

/-- What a character is written as is read back as this character, and reading goes on behind it:
the character is not looked at again. -/
lemma unescapeChars_append {c : Char} {written : List Char} (h : Encodes c written)
    (rest : List Char) : unescapeChars (written ++ rest) = c :: unescapeChars rest := by
  cases h with
  | plain h => rw [List.singleton_append, unescapeChars, if_neg h]
  | reference h hlength =>
      have href := reference?_of_names h hlength rest
      rw [List.append_assoc, List.cons_append, List.singleton_append, unescapeChars, if_pos rfl]
      split
      · next d more hsome =>
          rw [href] at hsome
          cases hsome
          rfl
      · next hnone =>
          rw [href] at hnone
          cases hnone

lemma unescapeChars_flatten {cs : List Char} {pieces : List (List Char)}
    (h : List.Forall₂ Encodes cs pieces) (rest : List Char) :
    unescapeChars (pieces.flatten ++ rest) = cs ++ unescapeChars rest := by
  induction h with
  | nil => rfl
  | cons hc _ ih => rw [List.flatten_cons, List.append_assoc, unescapeChars_append hc, ih]; rfl

/-! ### Room for every character -/

/-- The largest code point is below `16 ^ 6`. -/
lemma toNat_lt (c : Char) : c.toNat < 16 ^ 6 := by
  have h := c.valid
  have hbound : c.toNat < 0x110000 := by
    rcases h with h | h
    · exact lt_trans h (by decide)
    · exact h.2
  omega

/-- The bound on the length of a reference leaves room for the decimal code point of every
character. -/
lemma encodes_decimal (c : Char) : Encodes c ('&' :: '#' :: Nat.toDigits 10 c.toNat ++ [';']) := by
  have hdigits : (Nat.toDigits 10 c.toNat).length ≤ 8 :=
    (Nat.length_toDigits_le_iff (by decide) (by decide)).mpr
      (lt_trans (toNat_lt c) (by decide))
  have hname : Names c ('#' :: Nat.toDigits 10 c.toNat) := .decimal 0
  refine .reference hname ?_
  simp only [List.length_cons]
  omega

lemma encodes_hexadecimal {c mark : Char} (hmark : mark = 'x' ∨ mark = 'X') {digits : List Char}
    (h : List.Forall₂ SameDigit digits (Nat.toDigits 16 c.toNat)) :
    Encodes c ('&' :: '#' :: mark :: digits ++ [';']) := by
  have hdigits : (Nat.toDigits 16 c.toNat).length ≤ 6 :=
    (Nat.length_toDigits_le_iff (by decide) (by decide)).mpr (toNat_lt c)
  have hname : Names c ('#' :: mark :: digits) := .hexadecimal hmark 0 h
  refine .reference hname ?_
  rw [← h.length_eq] at hdigits
  simp only [List.length_cons]
  omega

/-- **Decoding undoes every escaping.** A text whose characters are each written in one of these
ways is read back as the text. What follows it is read as it would be read alone, so the decoded
characters never become part of another reference. -/
theorem unescape_encoded (s : String) (pieces : List (List Char))
    (h : List.Forall₂ Encodes s.toList pieces) :
    unescape (String.ofList pieces.flatten) = s
      ∧ ∀ rest : String, unescape (String.ofList pieces.flatten ++ rest) = s ++ unescape rest := by
  have hrest : ∀ rest : String,
      unescape (String.ofList pieces.flatten ++ rest) = s ++ unescape rest := by
    intro rest
    rw [unescape, String.toList_append, String.toList_ofList, unescapeChars_flatten h,
      String.ofList_append, String.ofList_toList, unescape]
  refine ⟨?_, hrest⟩
  have hempty : unescape "" = "" := by
    rw [unescape, String.toList_empty, unescapeChars]
  have hwhole := hrest ""
  rwa [String.append_empty, hempty, String.append_empty] at hwhole

/-- An escaped reference comes out as a reference, here with its other characters written in three
more ways. -/
theorem unescape_encoded_reference :
    List.Forall₂ Encodes "&lt;".toList
        ["&amp;".toList, ['l'], "&#0116;".toList, "&#X3B;".toList]
      ∧ unescape "&amp;l&#0116;&#X3B;" = "&lt;" := by
  have hnamed : Names '&' ['a', 'm', 'p'] := .named (by decide)
  have hampersand : Encodes '&' "&amp;".toList := .reference hnamed (by decide)
  have hletter : Encodes 'l' ['l'] := .plain (by decide)
  have hnumbered : Names 't' ['#', '0', '1', '1', '6'] := .decimal 1
  have hdecimal : Encodes 't' "&#0116;".toList := .reference hnumbered (by decide)
  have hdigits : List.Forall₂ SameDigit ['3', 'B'] (Nat.toDigits 16 ';'.toNat) :=
    .cons (.inl rfl) (.cons (.inr (by decide)) .nil)
  have hhexadecimal : Encodes ';' "&#X3B;".toList := encodes_hexadecimal (.inr rfl) hdigits
  have hpieces : List.Forall₂ Encodes "&lt;".toList
      ["&amp;".toList, ['l'], "&#0116;".toList, "&#X3B;".toList] :=
    .cons hampersand (.cons hletter (.cons hdecimal (.cons hhexadecimal .nil)))
  exact ⟨hpieces, (unescape_encoded "&lt;" _ hpieces).1⟩

end LuaBinder.Text
