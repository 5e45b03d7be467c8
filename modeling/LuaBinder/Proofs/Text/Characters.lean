import LuaBinder.Proofs.Text.Lines
import LuaBinder.Text.Segments

/-!
Texts by their characters.

* `Consists`: every character of a text passes a test, see `consists_append`,
  `consists_intercalate` and `Consists.of_subset`.
* `Admits`: the test lets pass what code is written with, apart from braces; so do literals and
  numbers, see `consists_ofList` and `consists_toString_nat`.
* `unbroken_iff_consists`: texts without line breaks are such texts.
-/

namespace LuaBinder.Text

/-- Every character of the text passes the test. -/
def Consists (p : Char → Bool) (text : String) : Prop := ∀ c ∈ text.toList, p c = true

instance (p : Char → Bool) (text : String) : Decidable (Consists p text) :=
  decidable_of_iff (text.toList.all p = true) List.all_eq_true

/-- A printable character of ASCII that is no brace. -/
def isCodeChar (c : Char) : Bool :=
  Nat.ble 0x20 c.toNat && Nat.ble c.toNat 0x7E && c != '\x7b' && c != '\x7d'

/-- The test lets every printable character pass that is no brace. -/
def Admits (p : Char → Bool) : Prop := ∀ c, isCodeChar c = true → p c = true

variable {p : Char → Bool} {a b : String}

lemma consists_append : Consists p (a ++ b) ↔ Consists p a ∧ Consists p b := by
  rw [Consists, String.toList_append, List.forall_mem_append]
  rfl

lemma Consists.append (ha : Consists p a) (hb : Consists p b) : Consists p (a ++ b) :=
  consists_append.mpr ⟨ha, hb⟩

lemma Consists.of_subset (hb : Consists p b) (h : a.toList ⊆ b.toList) : Consists p a :=
  fun c hc => hb c (h hc)

lemma Consists.not_mem {c : Char} (h : Consists p a) (hc : p c = false) : c ∉ a.toList :=
  fun hmem => Bool.false_ne_true (hc.symm.trans (h c hmem))

lemma consists_iff_not_mem : Consists p a ↔ ∀ c, p c = false → c ∉ a.toList := by
  refine ⟨fun h c hc => h.not_mem hc, fun h c hmem => ?_⟩
  rw [← Bool.not_eq_false]
  exact fun hc => h c hc hmem

/-- A text is made of the characters other than one of them exactly when it lacks this one. -/
lemma consists_ne_iff {c : Char} : Consists (· != c) a ↔ c ∉ a.toList := by
  refine ⟨fun h => h.not_mem (bne_self_eq_false c), fun h d hd => bne_iff_ne.mpr ?_⟩
  rintro rfl
  exact h hd

/-- A text given by its characters, such as a literal, is checked one by one. -/
lemma consists_ofList {cs : List Char} (hp : Admits p) (h : cs.all isCodeChar = true) :
    Consists p (String.ofList cs) := by
  intro c hc
  rw [String.toList_ofList] at hc
  exact hp c (List.all_eq_true.mp h c hc)

lemma isCodeChar_of_isDigit {c : Char} (h : c.isDigit = true) : isCodeChar c = true := by
  have hrange : 0x30 ≤ c.toNat ∧ c.toNat ≤ 0x39 := by
    simpa [Char.isDigit, UInt32.le_iff_toNat_le] using h
  have hopen : c ≠ '\x7b' := by rintro rfl; exact absurd h (by decide)
  have hclose : c ≠ '\x7d' := by rintro rfl; exact absurd h (by decide)
  simp only [isCodeChar, Bool.and_eq_true, Nat.ble_eq, bne_iff_ne]
  exact ⟨⟨⟨by omega, by omega⟩, hopen⟩, hclose⟩

lemma consists_toString_nat (hp : Admits p) (n : Nat) : Consists p (toString n) := by
  intro c hc
  rw [toList_toString_nat] at hc
  exact hp c (isCodeChar_of_isDigit (Nat.isDigit_of_mem_toDigits (by decide) (by decide) hc))

lemma consists_intercalate {separator : String} {texts : List String}
    (hseparator : Consists p separator) (h : ∀ text ∈ texts, Consists p text) :
    Consists p (separator.intercalate texts) :=
  consists_iff_not_mem.mpr fun _ hc =>
    not_mem_intercalate (hseparator.not_mem hc) fun text htext => (h text htext).not_mem hc

/-- What a text is made of, its words are made of. -/
lemma Consists.of_mem_words {text word : String} (h : Consists p text) (hword : word ∈ words text) :
    Consists p word := by
  obtain ⟨cs, hcs, rfl⟩ := List.mem_map.mp hword
  refine h.of_subset fun c hc => ?_
  rw [String.toList_ofList] at hc
  exact subset_of_mem_pieces (List.mem_filter.mp hcs).1 hc

lemma Consists.lastName (h : Consists p a) : Consists p (lastName a) := by
  rw [Text.lastName, afterLast]
  split
  · next before rest hsplit =>
      refine h.of_subset fun c hc => ?_
      rw [String.toList_ofList] at hc
      rw [eq_of_splitLast? hsplit]
      exact List.mem_append_right _ hc
  · exact h

/-! ### Texts without line breaks -/

/-- A character that ends no line. -/
def staysOnLine (c : Char) : Bool := c != '\n' && c != '\r'

lemma admits_staysOnLine : Admits staysOnLine := by
  intro c hc
  simp only [staysOnLine, Bool.and_eq_true, bne_iff_ne]
  constructor <;> (rintro rfl; exact absurd hc (by decide))

lemma unbroken_iff_consists {text : String} : Unbroken text ↔ Consists staysOnLine text := by
  rw [unbroken_iff]
  constructor
  · rintro ⟨hfeed, hreturn⟩ c hc
    simp only [staysOnLine, Bool.and_eq_true, bne_iff_ne]
    exact ⟨fun h => hfeed (h ▸ hc), fun h => hreturn (h ▸ hc)⟩
  · intro h
    exact ⟨h.not_mem (by decide), h.not_mem (by decide)⟩

/-! ### Texts that start without a blank -/

/-- The text starts with something else than a blank, or it is empty. -/
def Flush (text : String) : Prop := text.toList.head? ≠ some ' '

/-- The text starts with something else than a blank. -/
def Solid (text : String) : Prop := text ≠ "" ∧ Flush text

instance (text : String) : Decidable (Flush text) :=
  inferInstanceAs (Decidable (text.toList.head? ≠ some ' '))

instance (text : String) : Decidable (Solid text) := inferInstanceAs (Decidable (_ ∧ _))

lemma flush_empty : Flush "" := by decide

/-- What stands behind a text matters only if the text is empty. -/
lemma flush_append_iff : Flush (a ++ b) ↔ Flush a ∧ (a = "" → Flush b) := by
  rw [Flush, Flush, String.toList_append, List.head?_append, ← String.toList_inj,
    String.toList_empty]
  cases a.toList <;> simp [Flush]

lemma solid_append_iff : Solid (a ++ b) ↔ Flush a ∧ (a = "" → Solid b) := by
  rw [Solid, Solid, flush_append_iff, ne_eq, String.append_eq_empty_iff]
  tauto

lemma Solid.append (ha : Solid a) (b : String) : Solid (a ++ b) :=
  solid_append_iff.mpr ⟨ha.2, fun h => absurd h ha.1⟩

lemma Solid.flush_append (ha : Solid a) (b : String) : Flush (a ++ b) := (ha.append b).2

/-- A text with a blank behind it. -/
lemma flush_append_blank_iff {blank : String} (h : ¬ Flush blank) :
    Flush (a ++ blank ++ b) ↔ Solid a := by
  rw [String.append_assoc, flush_append_iff, flush_append_iff, Solid]
  tauto

lemma not_blank_of_mem_words {text word : String} (h : word ∈ words text) :
    ∀ c ∈ word.toList, isBlank c = false := by
  obtain ⟨cs, hcs, rfl⟩ := List.mem_map.mp h
  rw [String.toList_ofList]
  exact forall_not_of_mem_pieces (List.mem_filter.mp hcs).1

lemma flush_of_not_blank (h : ∀ c ∈ a.toList.head?, isBlank c = false) : Flush a := by
  intro hhead
  exact absurd (h ' ' hhead) (by decide)

lemma ne_empty_of_mem_words {text word : String} (h : word ∈ words text) : word ≠ "" := by
  obtain ⟨cs, hcs, rfl⟩ := List.mem_map.mp h
  have hne := (List.mem_filter.mp hcs).2
  rw [ne_eq, ← String.toList_inj, String.toList_ofList]
  simpa using hne

/-- Words that are joined start without a blank. -/
lemma flush_intercalate {separator text : String} {ws : List String} (h : ∀ w ∈ ws, w ∈ words text) :
    Flush (separator.intercalate ws) := by
  cases ws with
  | nil => exact flush_empty
  | cons w ws =>
      have hw := h w List.mem_cons_self
      have hsolid : Solid w := ⟨ne_empty_of_mem_words hw, flush_of_not_blank fun c hc =>
        not_blank_of_mem_words hw c (List.mem_of_mem_head? hc)⟩
      cases ws with
      | nil => rw [String.intercalate_singleton]; exact hsolid.2
      | cons next ws =>
          rw [String.intercalate_cons_cons, String.append_assoc]
          exact (hsolid.append _).2

lemma flush_trim (text : String) : Flush (trim text) := by
  have hprefix : trimChars text.toList <+: text.toList.dropWhile isBlank := by
    rw [trimChars, ← List.reverse_suffix, List.reverse_reverse]
    exact List.dropWhile_suffix _
  refine flush_of_not_blank fun c hc => ?_
  rw [trim, String.toList_ofList] at hc
  have hinner := List.head?_dropWhile_not isBlank text.toList
  obtain ⟨rest, hrest⟩ := hprefix
  have hhead : (text.toList.dropWhile isBlank).head? = some c := by
    rw [← hrest, List.head?_append, hc, Option.some_or]
  rw [hhead] at hinner
  exact hinner

end LuaBinder.Text
