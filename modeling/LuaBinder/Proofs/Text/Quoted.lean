import LuaBinder.Proofs.Text.Lines
import LuaBinder.Proofs.Text.References
import LuaBinder.Text.Quoted

/-!
Quoted texts: what stands between the quotes, and where the quotes end.

Between the quotes a character stands as itself or behind a backslash, and in either case it shows
where its written form ends. So does the quoted text: no character is written with a quote in front.

* `WrittenAs`: the ways in which characters are written; `writtenAs_escapeChar`.
* `unbroken_quote`: a quoted text holds no line break, whatever is quoted.
* `SelfDelimiting`: a code whose end shows, whatever follows it; `SelfDelimiting.flatMap_inj`: such
  codes one after another.
* `selfDelimiting_escapeChar`, `selfDelimiting_quoteChars`: characters and texts are written in such
  codes.
-/

namespace LuaBinder.Text

/-! ### Written characters -/

/-- The characters that have a letter of their own behind a backslash, with this letter. -/
def escapeLetters : List (Char × Char) :=
  [('\x00', '0'), ('\t', 't'), ('\r', 'r'), ('\n', 'n'), ('\\', '\\'), ('"', '"')]

/-- What may stand behind a backslash for a character. -/
inductive EscapedAs (c : Char) : List Char → Prop
  | letter {l : Char} (h : (c, l) ∈ escapeLetters) : EscapedAs c [l]
  | codePoint : EscapedAs c ('u' :: '\x7b' :: (hexDigits c.toNat ++ ['\x7d']))

/-- What may stand between quotes for a character. -/
inductive WrittenAs (c : Char) : List Char → Prop
  | plain (h : ∀ l, (c, l) ∉ escapeLetters) : WrittenAs c [c]
  | escaped {tail : List Char} (h : EscapedAs c tail) : WrittenAs c ('\\' :: tail)

lemma writtenAs_escapeChar (c : Char) : WrittenAs c (escapeChar c) := by
  rw [escapeChar]
  split_ifs with hzero htab hreturn hfeed hslash hquote hcode
  · exact .escaped (.letter (by simp [hzero, escapeLetters]))
  · exact .escaped (.letter (by simp [htab, escapeLetters]))
  · exact .escaped (.letter (by simp [hreturn, escapeLetters]))
  · exact .escaped (.letter (by simp [hfeed, escapeLetters]))
  · exact .escaped (.letter (by simp [hslash, escapeLetters]))
  · exact .escaped (.letter (by simp [hquote, escapeLetters]))
  · exact .escaped .codePoint
  · exact .plain (by simp [escapeLetters, hzero, htab, hreturn, hfeed, hslash, hquote])

/-- A character that stands as itself is none of those that have a letter. -/
lemma ne_of_plain {c d l : Char} (hc : ∀ l, (c, l) ∉ escapeLetters)
    (hd : (d, l) ∈ escapeLetters) : c ≠ d := by
  rintro rfl
  exact hc l hd

/-! ### Line breaks -/

lemma ne_of_mem_hexDigits {n : Nat} {c : Char} (h : c ∈ hexDigits n) :
    c ≠ '\n' ∧ c ≠ '\r' ∧ c ≠ '\x7d' := by
  obtain ⟨d, hd, rfl⟩ := mem_toDigits (by decide) h
  exact (by decide : ∀ d < 16, Nat.digitChar d ≠ '\n' ∧ Nat.digitChar d ≠ '\r'
    ∧ Nat.digitChar d ≠ '\x7d') d hd

lemma EscapedAs.ne_of_mem {c x : Char} {tail : List Char} (h : EscapedAs c tail)
    (hx : x ∈ tail) : x ≠ '\n' ∧ x ≠ '\r' := by
  cases h with
  | @letter l hl =>
      have hletters : ∀ p ∈ escapeLetters, p.2 ≠ '\n' ∧ p.2 ≠ '\r' := by decide
      rw [List.mem_singleton.mp hx]
      exact hletters (c, l) hl
  | codePoint =>
      simp only [List.mem_cons, List.mem_append, List.not_mem_nil, or_false] at hx
      rcases hx with rfl | rfl | hx | rfl
      · decide
      · decide
      · exact ⟨(ne_of_mem_hexDigits hx).1, (ne_of_mem_hexDigits hx).2.1⟩
      · decide

/-- No character is written with a line break: the two that end a line have letters. -/
lemma WrittenAs.ne_of_mem {c x : Char} {written : List Char} (h : WrittenAs c written)
    (hx : x ∈ written) : x ≠ '\n' ∧ x ≠ '\r' := by
  cases h with
  | plain hc =>
      rw [List.mem_singleton.mp hx]
      exact ⟨ne_of_plain (l := 'n') hc (by decide), ne_of_plain (l := 'r') hc (by decide)⟩
  | escaped htail =>
      rcases List.mem_cons.mp hx with rfl | hx
      · decide
      · exact htail.ne_of_mem hx

/-- A quoted text stays on its line. -/
theorem unbroken_quote (s : String) : Unbroken (quote s) := by
  have hall : ∀ x ∈ quoteChars s.toList, x ≠ '\n' ∧ x ≠ '\r' := by
    intro x hx
    rcases List.mem_append.mp hx with hx | hx
    · rcases List.mem_cons.mp hx with rfl | hx
      · decide
      · obtain ⟨c, -, hx⟩ := List.mem_flatMap.mp hx
        exact (writtenAs_escapeChar c).ne_of_mem hx
    · rw [List.mem_singleton.mp hx]
      decide
  rw [unbroken_iff, quote, String.toList_ofList]
  exact ⟨fun h => (hall _ h).1 rfl, fun h => (hall _ h).2 rfl⟩

lemma unbroken_padRight (width : Nat) {s : String} (h : Unbroken s) :
    Unbroken (padRight width s) := by
  refine unbroken_append.mpr ⟨h, ?_⟩
  rw [unbroken_iff, String.toList_ofList]
  exact ⟨fun h => absurd (List.eq_of_mem_replicate h) (by decide),
    fun h => absurd (List.eq_of_mem_replicate h) (by decide)⟩

/-! ### Codes whose end shows -/

section Codes

variable {α : Type} {P : α → Prop} {code : α → List Char}

/-- Whatever follows the code of a value with the property, it determines the value and what
follows. -/
def SelfDelimiting (P : α → Prop) (code : α → List Char) : Prop :=
  ∀ ⦃a b : α⦄, P a → P b → ∀ ⦃s t : List Char⦄, code a ++ s = code b ++ t → a = b ∧ s = t

/-- So do codes one after another, if what follows them does not begin with a code. -/
lemma SelfDelimiting.flatMap_inj (h : SelfDelimiting P code) {xs ys : List α}
    (hxs : ∀ a ∈ xs, P a) (hys : ∀ b ∈ ys, P b) {s t : List Char}
    (hs : ∀ b, P b → ¬ code b <+: s) (ht : ∀ a, P a → ¬ code a <+: t)
    (heq : xs.flatMap code ++ s = ys.flatMap code ++ t) : xs = ys ∧ s = t := by
  induction xs generalizing ys with
  | nil =>
      cases ys with
      | nil => exact ⟨rfl, heq⟩
      | cons b ys =>
          -- what follows no codes would begin with a code
          rw [List.flatMap_nil, List.nil_append, List.flatMap_cons, List.append_assoc] at heq
          exact absurd ⟨_, heq.symm⟩ (hs b (hys b List.mem_cons_self))
  | cons a xs ih =>
      obtain ⟨ha, hafter⟩ := List.forall_mem_cons.mp hxs
      rw [List.flatMap_cons, List.append_assoc] at heq
      cases ys with
      | nil => exact absurd ⟨_, heq⟩ (ht a ha)
      | cons b ys =>
          obtain ⟨hb, hbehind⟩ := List.forall_mem_cons.mp hys
          rw [List.flatMap_cons, List.append_assoc] at heq
          obtain ⟨rfl, hrest⟩ := h ha hb heq
          obtain ⟨rfl, hends⟩ := ih hafter hbehind hrest
          exact ⟨rfl, hends⟩

end Codes

/-! ### The end of a quoted text -/

lemma hexDigits_injective : Function.Injective hexDigits := by
  intro m n h
  have hm := digitsValue?_toDigits (by decide) le_rfl m
  have hn := digitsValue?_toDigits (by decide) le_rfl n
  rw [hexDigits, hexDigits] at h
  rw [h, hn] at hm
  exact (Option.some.inj hm).symm

variable {c d : Char} {v w s t : List Char}

/-- What stands behind a backslash determines the character and what follows. -/
lemma EscapedAs.append_inj (hv : EscapedAs c v) (hw : EscapedAs d w) (h : v ++ s = w ++ t) :
    c = d ∧ s = t := by
  have hletters : ∀ p ∈ escapeLetters, p.2 ≠ 'u' := by decide
  cases hv with
  | @letter l hl =>
      cases hw with
      | @letter k hk =>
          obtain ⟨rfl, hrest⟩ := List.cons.inj h
          have hsame : ∀ p ∈ escapeLetters, ∀ q ∈ escapeLetters, p.2 = q.2 → p.1 = q.1 := by
            decide
          exact ⟨hsame (c, l) hl (d, l) hk rfl, hrest⟩
      -- the letter of a code point is no other character's
      | codePoint => exact absurd (List.cons.inj h).1 (hletters (c, l) hl)
  | codePoint =>
      cases hw with
      | @letter k hk => exact absurd (List.cons.inj h).1.symm (hletters (d, k) hk)
      | codePoint =>
          -- both code points end at the first brace
          have hbrace : ∀ n, '\x7d' ∉ hexDigits n :=
            fun n hmem => (ne_of_mem_hexDigits hmem).2.2 rfl
          obtain ⟨hdigits, hrest⟩ := append_cons_inj (hbrace _) (hbrace _) (by simpa using h)
          exact ⟨Char.toNat_inj.mp (hexDigits_injective hdigits), hrest⟩

/-- A written character determines the character and what follows. -/
lemma WrittenAs.append_inj (hv : WrittenAs c v) (hw : WrittenAs d w) (h : v ++ s = w ++ t) :
    c = d ∧ s = t := by
  cases hv with
  | plain hc =>
      cases hw with
      | plain hd => exact List.cons.inj h
      | escaped hw =>
          exact absurd (List.cons.inj h).1 (ne_of_plain (l := '\\') hc (by decide))
  | escaped hv =>
      cases hw with
      | plain hd =>
          exact absurd (List.cons.inj h).1.symm (ne_of_plain (l := '\\') hd (by decide))
      | escaped hw => exact hv.append_inj hw (List.cons.inj h).2

/-- No character is written with a quote in front. -/
lemma WrittenAs.not_prefix_quote (h : WrittenAs c v) : ¬ v <+: '"' :: s := by
  intro hv
  cases h with
  | plain hc => exact ne_of_plain (l := '"') hc (by decide) (List.cons_prefix_cons.mp hv).1
  | escaped _ => exact absurd (List.cons_prefix_cons.mp hv).1 (by decide)

lemma selfDelimiting_escapeChar : SelfDelimiting (fun _ => True) escapeChar := by
  intro c d _ _ s t h
  exact (writtenAs_escapeChar c).append_inj (writtenAs_escapeChar d) h

/-- A quoted text ends at a quote that no character between its quotes is written with. -/
lemma selfDelimiting_quoteChars : SelfDelimiting (fun _ => True) quoteChars := by
  intro cs ds _ _ s t h
  have hend : ∀ (more : List Char) (c : Char), True → ¬ escapeChar c <+: '"' :: more :=
    fun more c _ => (writtenAs_escapeChar c).not_prefix_quote
  simp only [quoteChars, List.cons_append, List.append_assoc, List.nil_append, List.cons.injEq,
    true_and] at h
  obtain ⟨rfl, hrest⟩ := selfDelimiting_escapeChar.flatMap_inj (fun _ _ => trivial)
    (fun _ _ => trivial) (hend s) (hend t) h
  exact ⟨rfl, (List.cons.inj hrest).2⟩

end LuaBinder.Text
