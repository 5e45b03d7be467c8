import LuaBinder.Proofs.Text.References

/-!
Texts that decoding leaves as they are.

A text changes exactly where a reference is read. The reader of numbers also takes a plus sign, so
there are names that it reads and that no reference has.

* `numeral_of_digitsValue?`: digits with a value are the numeral of this value behind zeros.
* `PlusNames`: names with a plus sign in front of the digits.
* `decodeName_eq_some_iff`: the names that are read for a character are its names, and those with a
  plus sign.
* `reference?_eq_some_iff`: a reference is read where a short name stands in front of a semicolon.
* `unescapeChars_eq_self_iff`: a text stays as it is exactly when no reference is read in it, for
  each one that is read makes the text shorter.
* `unescape_eq_self_iff`: a text without references stays as it is exactly when no short name with a
  plus sign stands in it between an ampersand and a semicolon.
-/

namespace LuaBinder.Text

/-! ### Digits with a value -/

/-- A digit with a value is the digit of this value in either letter case. -/
lemma sameDigit_of_digitValue? {base k : Nat} (hle : base ≤ 16) {c : Char}
    (h : digitValue? base c = some k) : k < base ∧ SameDigit c k.digitChar := by
  rw [digitValue?, Option.filter_eq_some_iff] at h
  obtain ⟨hvalue, hk⟩ := h
  have hlt : k < base := by simpa using hk
  have hhex : digitValue? 16 c = some k := by
    rw [digitValue?, Option.filter_eq_some_iff]
    exact ⟨hvalue, by simpa using lt_of_lt_of_le hlt hle⟩
  have hsmall : c.toNat < 128 := by
    by_contra hlarge
    have hbound : ∀ d : Char, d.toNat < 128 → ¬ c ≤ d := fun d hd hcd =>
      hlarge (lt_of_le_of_lt hcd hd)
    simp [hbound] at hvalue
  have hsame : ∀ n < 128, ∀ k ∈ digitValue? 16 (Char.ofNat n),
      Char.ofNat n = k.digitChar ∨ Char.ofNat n = k.digitChar.toUpper := by decide
  have hc := hsame c.toNat hsmall k
  rw [Char.ofNat_toNat] at hc
  exact ⟨hlt, hc hhex⟩

/-- Digits with a value are the numeral of this value behind zeros, in either letter case. -/
lemma numeral_of_digitsValue? {base n : Nat} (hbase : 1 < base) (hle : base ≤ 16) {cs : List Char}
    (hne : cs ≠ []) (h : digitsValue? base cs = some n) :
    ∃ zeros digits, cs = List.replicate zeros '0' ++ digits
      ∧ List.Forall₂ SameDigit digits (Nat.toDigits base n) := by
  induction cs using List.reverseRecOn generalizing n with
  | nil => exact absurd rfl hne
  | append_singleton cs c ih =>
      rw [digitsValue?_append_singleton] at h
      obtain ⟨m, hm, h⟩ := Option.bind_eq_some_iff.mp h
      obtain ⟨k, hc, rfl⟩ := Option.map_eq_some_iff.mp h
      obtain ⟨hk, hsame⟩ := sameDigit_of_digitValue? hle hc
      have hlast : List.Forall₂ SameDigit [c] (Nat.toDigits base k) := by
        rw [Nat.toDigits_of_lt_base hk]
        exact .cons hsame .nil
      by_cases hcs : cs = []
      · subst hcs
        obtain rfl : 0 = m := Option.some.inj hm
        rw [Nat.zero_mul, Nat.zero_add]
        exact ⟨0, [c], rfl, hlast⟩
      · obtain ⟨zeros, digits, rfl, hdigits⟩ := ih hcs hm
        rcases Nat.eq_zero_or_pos m with rfl | hpos
        · -- the numeral of zero is one more of the zeros in front
          have hzero : digits = ['0'] := by
            rw [Nat.toDigits_zero] at hdigits
            cases hdigits with
            | cons hd hrest =>
                cases hrest
                rcases hd with rfl | rfl <;> rfl
          rw [Nat.zero_mul, Nat.zero_add]
          exact ⟨zeros + 1, [c], by rw [hzero, List.replicate_succ'], hlast⟩
        · refine ⟨zeros, digits ++ [c], List.append_assoc .., ?_⟩
          rw [Nat.mul_comm, ← Nat.toDigits_append_toDigits hbase hpos hk]
          exact List.rel_append hdigits hlast

/-- Decimal digits have one letter case. -/
lemma eq_of_sameDigits_decimal {digits : List Char} {n : Nat}
    (h : List.Forall₂ SameDigit digits (Nat.toDigits 10 n)) : digits = Nat.toDigits 10 n := by
  have hupper : ∀ k < 10, (Nat.digitChar k).toUpper = k.digitChar := by decide
  have hdigit : ∀ e ∈ Nat.toDigits 10 n, e.toUpper = e := by
    intro e he
    obtain ⟨k, hk, rfl⟩ := mem_toDigits (by decide) he
    exact hupper k hk
  generalize Nat.toDigits 10 n = es at h hdigit
  induction h with
  | nil => rfl
  | cons hd _ ih =>
      obtain ⟨he, hes⟩ := List.forall_mem_cons.mp hdigit
      rw [SameDigit, he, or_self] at hd
      rw [hd, ih hes]

lemma scalar?_eq_some_iff {n : Nat} {c : Char} : scalar? n = some c ↔ n = c.toNat := by
  refine ⟨fun h => ?_, fun h => h ▸ scalar?_toNat c⟩
  rw [scalar?, Option.dite_none_right_eq_some] at h
  obtain ⟨_, hc⟩ := h
  cases hc
  rfl

/-- A number is read from digits, with a plus sign in front of them or without. -/
lemma signedNumber?_eq_some_iff {base n : Nat} {cs : List Char} :
    signedNumber? base cs = some n ↔ ∃ digits, (cs = digits ∨ cs = '+' :: digits)
      ∧ digits ≠ [] ∧ digitsValue? base digits = some n := by
  have hnumber : ∀ digits, number? base digits = some n
      ↔ digits ≠ [] ∧ digitsValue? base digits = some n := by
    intro digits
    rw [number?]
    cases digits <;> simp
  constructor
  · intro h
    rw [signedNumber?.eq_def] at h
    split at h
    · next digits => exact ⟨digits, .inr rfl, (hnumber digits).mp h⟩
    · exact ⟨cs, .inl rfl, (hnumber cs).mp h⟩
  · rintro ⟨digits, rfl | rfl, hne, h⟩
    · exact signedNumber?_of_digitsValue? hne h
    · exact (hnumber digits).mpr ⟨hne, h⟩

/-- So is the character with this code point. -/
lemma bind_scalar?_eq_some_iff {base : Nat} {c : Char} {cs : List Char} :
    signedNumber? base cs >>= scalar? = some c ↔ ∃ digits, (cs = digits ∨ cs = '+' :: digits)
      ∧ digits ≠ [] ∧ digitsValue? base digits = some c.toNat := by
  rw [← signedNumber?_eq_some_iff]
  constructor
  · intro h
    obtain ⟨n, hn, hc⟩ := Option.bind_eq_some_iff.mp h
    rwa [← scalar?_eq_some_iff.mp hc]
  · intro h
    exact Option.bind_eq_some_iff.mpr ⟨_, h, scalar?_toNat c⟩

/-! ### Names with a plus sign -/

/-- The code point of a character behind any number of zeros, with a plus sign in front of them. -/
inductive PlusNames (c : Char) : List Char → Prop
  | decimal (zeros : Nat) :
    PlusNames c ('#' :: '+' :: (List.replicate zeros '0' ++ Nat.toDigits 10 c.toNat))
  | hexadecimal {mark : Char} (hmark : mark = 'x' ∨ mark = 'X') (zeros : Nat) {digits : List Char}
    (h : List.Forall₂ SameDigit digits (Nat.toDigits 16 c.toNat)) :
    PlusNames c ('#' :: mark :: '+' :: (List.replicate zeros '0' ++ digits))

section PlusNames

variable {c : Char} {name : List Char}

lemma PlusNames.decodeName (h : PlusNames c name) : Text.decodeName name = some c := by
  cases h with
  | decimal zeros =>
      exact bind_scalar?_eq_some_iff.mpr ⟨_, .inr rfl, zeros_append_ne_nil zeros rfl,
        digitsValue?_decimal zeros c.toNat⟩
  | @hexadecimal mark hmark zeros digits h =>
      have hvalue : signedNumber? 16 ('+' :: (List.replicate zeros '0' ++ digits)) >>= scalar?
          = some c :=
        bind_scalar?_eq_some_iff.mpr ⟨_, .inr rfl, zeros_append_ne_nil zeros h.length_eq,
          digitsValue?_hexadecimal zeros h⟩
      rcases hmark with rfl | rfl <;> exact hvalue

/-- Without its plus sign the name is that of a reference. -/
lemma PlusNames.exists_names (h : PlusNames c name) :
    ∃ front back, name = front ++ '+' :: back ∧ Names c (front ++ back) := by
  cases h with
  | decimal zeros => exact ⟨['#'], _, rfl, .decimal zeros⟩
  | @hexadecimal mark hmark zeros digits h =>
      exact ⟨['#', mark], _, rfl, .hexadecimal hmark zeros h⟩

lemma PlusNames.semicolon_not_mem (h : PlusNames c name) : ';' ∉ name := by
  obtain ⟨front, back, rfl, hnames⟩ := h.exists_names
  simpa [List.mem_append] using hnames.semicolon_not_mem

/-- The number in a name that is read is the code point of the character. -/
lemma names_of_number {base : Nat} {c : Char} {cs : List Char} (hbase : 1 < base) (hle : base ≤ 16)
    (h : signedNumber? base cs >>= scalar? = some c) : ∃ zeros digits,
      List.Forall₂ SameDigit digits (Nat.toDigits base c.toNat)
        ∧ (cs = List.replicate zeros '0' ++ digits
          ∨ cs = '+' :: (List.replicate zeros '0' ++ digits)) := by
  obtain ⟨written, hcs, hne, hvalue⟩ := bind_scalar?_eq_some_iff.mp h
  obtain ⟨zeros, digits, rfl, hdigits⟩ := numeral_of_digitsValue? hbase hle hne hvalue
  exact ⟨zeros, digits, hdigits, hcs⟩

/-- The names that are read for a character are its names, and those with a plus sign. -/
lemma decodeName_eq_some_iff : decodeName name = some c ↔ Names c name ∨ PlusNames c name := by
  refine ⟨fun h => ?_, fun h => h.elim Names.decodeName PlusNames.decodeName⟩
  have hhex : ∀ {mark : Char} {cs : List Char}, mark = 'x' ∨ mark = 'X' →
      signedNumber? 16 cs >>= scalar? = some c →
      Names c ('#' :: mark :: cs) ∨ PlusNames c ('#' :: mark :: cs) := by
    intro mark cs hmark hvalue
    obtain ⟨zeros, digits, hdigits, rfl | rfl⟩ := names_of_number (by decide) le_rfl hvalue
    · exact .inl (.hexadecimal hmark zeros hdigits)
    · exact .inr (.hexadecimal hmark zeros hdigits)
  unfold decodeName at h
  split at h
  -- the names that are words
  iterate 6
    · cases h
      exact .inl (.named (by decide))
  · exact hhex (.inl rfl) h
  · exact hhex (.inr rfl) h
  · obtain ⟨zeros, digits, hdigits, rfl | rfl⟩ := names_of_number (by decide) (by decide) h
    · exact .inl (eq_of_sameDigits_decimal hdigits ▸ .decimal zeros)
    · exact .inr (eq_of_sameDigits_decimal hdigits ▸ .decimal zeros)
  · cases h

lemma semicolon_not_mem_of_decodeName (h : decodeName name = some c) : ';' ∉ name :=
  (decodeName_eq_some_iff.mp h).elim Names.semicolon_not_mem PlusNames.semicolon_not_mem

end PlusNames

/-! ### References that are read -/

/-- What stands in front of the first semicolon, and what follows it. -/
lemma splitSemicolon?_eq_some_iff {cs name rest : List Char} :
    splitSemicolon? cs = some (name, rest) ↔ cs = name ++ ';' :: rest ∧ ';' ∉ name := by
  constructor
  · intro h
    induction cs generalizing name with
    | nil => cases h
    | cons c cs ih =>
        rw [splitSemicolon?] at h
        split at h
        · next hc =>
            cases h
            exact ⟨congrArg (· :: rest) hc, List.not_mem_nil⟩
        · next hc =>
            obtain ⟨⟨front, back⟩, hcut, heq⟩ := Option.map_eq_some_iff.mp h
            cases heq
            obtain ⟨rfl, hfront⟩ := ih hcut
            refine ⟨rfl, ?_⟩
            rw [List.mem_cons, not_or]
            exact ⟨Ne.symm hc, hfront⟩
  · rintro ⟨rfl, hname⟩
    exact splitSemicolon?_append hname rest

/-- A reference is read where a name that is read, and is not too long, stands in front of a
semicolon. -/
lemma reference?_eq_some_iff {cs rest : List Char} {c : Char} :
    reference? cs = some (c, rest) ↔ ∃ name, decodeName name = some c
      ∧ name.length ≤ longestName ∧ cs = name ++ ';' :: rest := by
  rw [reference?]
  constructor
  · intro h
    split at h
    · cases h
    · next name found hcut =>
        split at h
        · next hlength =>
            obtain ⟨d, hd, heq⟩ := Option.map_eq_some_iff.mp h
            cases heq
            exact ⟨name, hd, hlength, (splitSemicolon?_eq_some_iff.mp hcut).1⟩
        · cases h
  · rintro ⟨name, hd, hlength, rfl⟩
    rw [splitSemicolon?_append (semicolon_not_mem_of_decodeName hd)]
    simp only [if_pos hlength, hd, Option.map_some]

/-- A name that is read, and is not too long, stands between an ampersand and a semicolon. -/
def Readable (cs : List Char) : Prop :=
  ∃ c name, decodeName name = some c ∧ name.length ≤ longestName ∧ '&' :: name ++ [';'] <:+: cs

/-- Such a name stands behind the first character or further on. -/
lemma readable_cons_iff {c : Char} {cs : List Char} :
    Readable (c :: cs) ↔ (c = '&' ∧ (reference? cs).isSome = true) ∨ Readable cs := by
  have hhead : ∀ name : List Char,
      '&' :: name ++ [';'] <+: c :: cs ↔ c = '&' ∧ ∃ rest, cs = name ++ ';' :: rest := by
    intro name
    rw [List.cons_append, List.cons_prefix_cons, @eq_comm _ '&']
    refine and_congr_right fun _ => exists_congr fun rest => ?_
    rw [List.append_assoc, List.singleton_append, eq_comm]
  constructor
  · rintro ⟨d, name, hd, hlength, hfound⟩
    rcases List.infix_cons_iff.mp hfound with hstart | hfound
    · obtain ⟨hc, rest, heq⟩ := (hhead name).mp hstart
      have href := reference?_eq_some_iff.mpr ⟨name, hd, hlength, heq⟩
      exact .inl ⟨hc, Option.isSome_of_eq_some href⟩
    · exact .inr ⟨d, name, hd, hlength, hfound⟩
  · rintro (⟨hc, href⟩ | ⟨d, name, hd, hlength, hfound⟩)
    · obtain ⟨⟨d, rest⟩, href⟩ := Option.isSome_iff_exists.mp href
      obtain ⟨name, hd, hlength, heq⟩ := reference?_eq_some_iff.mp href
      exact ⟨d, name, hd, hlength, ((hhead name).mpr ⟨hc, rest, heq⟩).isInfix⟩
    · exact ⟨d, name, hd, hlength, List.infix_cons hfound⟩

/-! ### Texts that stay as they are -/

/-- No text gets longer. -/
lemma length_unescapeChars_le (cs : List Char) : (unescapeChars cs).length ≤ cs.length := by
  fun_induction unescapeChars cs with
  | case1 => exact le_rfl
  | case2 cs d rest href ih =>
      have hrest := length_reference? href
      rw [List.length_cons, List.length_cons]
      omega
  | case3 cs href ih => exact Nat.succ_le_succ ih
  | case4 c cs hc ih => exact Nat.succ_le_succ ih

/-- A text stays as it is exactly when no reference is read in it. -/
lemma unescapeChars_eq_self_iff (cs : List Char) : unescapeChars cs = cs ↔ ¬ Readable cs := by
  fun_induction unescapeChars cs with
  | case1 => simp [Readable]
  | case2 cs d rest href ih =>
      -- a character stands in the place of the ampersand, the name and the semicolon
      have hrest := length_reference? href
      have hle := length_unescapeChars_le rest
      refine iff_of_false (fun heq => ?_) (not_not_intro (readable_cons_iff.mpr (.inl ⟨rfl, ?_⟩)))
      · have hlength := congrArg List.length heq
        rw [List.length_cons, List.length_cons] at hlength
        omega
      · rw [href]
        rfl
  | case3 cs href ih =>
      rw [readable_cons_iff, href, List.cons.injEq, ih]
      simp
  | case4 c cs hc ih =>
      rw [readable_cons_iff, List.cons.injEq, ih]
      simp [hc]

/-- **What is no reference stays as it is.** A text in which no ampersand starts a reference is left
as it is exactly when no ampersand starts such a reference with a plus sign in front of its digits,
short enough to be read. -/
theorem unescape_eq_self_iff (s : String)
    (h : ∀ c name, Names c name → ¬ '&' :: name ++ [';'] <:+: s.toList) :
    unescape s = s ↔ ∀ c name, PlusNames c name → name.length ≤ longestName →
      ¬ '&' :: name ++ [';'] <:+: s.toList := by
  have hchars : unescape s = s ↔ unescapeChars s.toList = s.toList := by
    rw [unescape, ← String.toList_inj, String.toList_ofList]
  rw [hchars, unescapeChars_eq_self_iff]
  constructor
  · intro hnone c name hname hlength hfound
    exact hnone ⟨c, name, hname.decodeName, hlength, hfound⟩
  · rintro hplus ⟨c, name, hd, hlength, hfound⟩
    rcases decodeName_eq_some_iff.mp hd with hname | hname
    · exact h c name hname hfound
    · exact hplus c name hname hlength hfound

/-- In a text of a few characters all parts can be looked through. -/
lemma not_infix_of_parts (cs : List Char)
    (h : ∀ t ∈ cs.tails, ∀ part ∈ t.inits, part.head? = some '&' → part.getLast? = some ';' →
      '+' ∈ part.tail.dropLast ∨ decodeName part.tail.dropLast = none)
    (c : Char) (name : List Char) (hname : Names c name) : ¬ '&' :: name ++ [';'] <:+: cs := by
  intro hfound
  obtain ⟨t, hstart, hsuffix⟩ := List.infix_iff_prefix_suffix.mp hfound
  have hpart := h t ((List.mem_tails _ _).mpr hsuffix) _ ((List.mem_inits _ _).mpr hstart) rfl
    List.getLast?_concat
  rw [List.cons_append, List.tail_cons, List.dropLast_concat] at hpart
  rcases hpart with hplus | hnone
  · exact hname.not_mem (fun _ => rfl) (by decide) hplus
  · rw [hname.decodeName] at hnone
    cases hnone

/-- References of C++ and unknown words, numbers that are too large and bare number signs. -/
theorem unescape_eq_self_ampersands :
    (∀ c name, Names c name →
        ¬ '&' :: name ++ [';'] <:+: "T&& a=&b; &bogus; &#xD800; &#; &lt".toList)
      ∧ unescape "T&& a=&b; &bogus; &#xD800; &#; &lt" = "T&& a=&b; &bogus; &#xD800; &#; &lt" := by
  have hnone := not_infix_of_parts "T&& a=&b; &bogus; &#xD800; &#; &lt".toList
    (by decide +kernel)
  refine ⟨hnone, (unescape_eq_self_iff _ hnone).mpr fun c name hname _ hfound => ?_⟩
  obtain ⟨front, back, rfl, -⟩ := hname.exists_names
  have hplus : '+' ∉ "T&& a=&b; &bogus; &#xD800; &#; &lt".toList := by decide
  exact hplus (hfound.subset (by simp))

/-- A number with a plus sign is no reference, but it is decoded. -/
theorem unescape_plus_sign :
    (∀ c name, Names c name → ¬ '&' :: name ++ [';'] <:+: "&#+65;".toList)
      ∧ unescape "&#+65;" ≠ "&#+65;" := by
  have hdecoded : unescape "&#+65;" = "A" := by decide +kernel
  refine ⟨not_infix_of_parts _ (by decide +kernel), ?_⟩
  rw [hdecoded]
  decide

end LuaBinder.Text
