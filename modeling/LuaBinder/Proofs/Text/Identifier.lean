import LuaBinder.Proofs.Text.Lines
import LuaBinder.Text.Identifier

/-!
Identifiers of C under appending.

* `isIdentifier_append`: behind an identifier, only the characters that follow decide.
* `Qualifies`: a qualified name and its parts; it is an identifier itself exactly when it has one
  part, `Qualifies.isIdentifier_iff`.
* `IsQualifiedName`: a name with such parts; it is not empty and one word.
-/

namespace LuaBinder.Text

/-! ### Longer identifiers -/

/-- The characters of an identifier may all stand behind its first one. -/
lemma rest_of_isIdentifier {s : String} (h : isIdentifier s = true) :
    s.toList.all isIdentifierRest = true := by
  have hstart : ∀ c : Char, isIdentifierStart c = true → isIdentifierRest c = true := by
    intro c hc
    rw [isIdentifierStart, Bool.or_eq_true] at hc
    rw [isIdentifierRest, Char.isAlphanum, Bool.or_eq_true, Bool.or_eq_true]
    exact hc.imp_left .inl
  rw [isIdentifier] at h
  cases hs : s.toList with
  | nil => rfl
  | cons c cs =>
      rw [hs, isIdentifierChars, Bool.and_eq_true] at h
      rw [List.all_cons, hstart c h.1, h.2, Bool.and_true]

/-- No other character stands in an identifier. -/
lemma not_mem_of_isIdentifier {s : String} (h : isIdentifier s = true) {c : Char}
    (hc : isIdentifierRest c = false) : c ∉ s.toList := by
  intro hmem
  rw [List.all_eq_true.mp (rest_of_isIdentifier h) c hmem] at hc
  cases hc

/-- Behind an identifier only the characters that follow decide. -/
lemma isIdentifier_append {a : String} (ha : isIdentifier a = true) (b : String) :
    isIdentifier (a ++ b) = b.toList.all isIdentifierRest := by
  rw [isIdentifier] at ha ⊢
  rw [String.toList_append]
  cases hs : a.toList with
  | nil =>
      rw [hs] at ha
      cases ha
  | cons c cs =>
      rw [hs, isIdentifierChars, Bool.and_eq_true] at ha
      rw [List.cons_append, isIdentifierChars, List.all_append, ha.1, ha.2, Bool.true_and,
        Bool.true_and]

/-- Two identifiers with an underscore between them. -/
lemma isIdentifier_underscore {a b : String} (ha : isIdentifier a = true)
    (hb : isIdentifier b = true) : isIdentifier (a ++ "_" ++ b) = true := by
  have hfront : isIdentifier (a ++ "_") = true := (isIdentifier_append ha "_").trans (by decide)
  exact (isIdentifier_append hfront b).trans (rest_of_isIdentifier hb)

/-- An identifier with a number behind it. -/
lemma isIdentifier_append_toString {s : String} (h : isIdentifier s = true) (n : Nat) :
    isIdentifier (s ++ toString n) = true := by
  rw [isIdentifier_append h, toList_toString_nat, List.all_eq_true]
  intro c hc
  have hdigit := Nat.isDigit_of_mem_toDigits (by decide) (by decide) hc
  rw [isIdentifierRest, Char.isAlphanum, hdigit, Bool.or_true, Bool.true_or]

/-! ### Qualified names -/

/-- The name joins the identifiers by `::`. -/
structure Qualifies (parts : List String) (name : String) : Prop where
  identifiers : ∀ part ∈ parts, isIdentifier part = true
  joined : name = String.intercalate "::" parts
  nonempty : parts ≠ []

/-- Only a name of one part has no colon. -/
lemma Qualifies.length_eq_one_of_forall {parts : List String} {name : String}
    (h : Qualifies parts name) (hname : ∀ c ∈ name.toList, c ≠ ':') : parts.length = 1 := by
  match parts, h.nonempty with
  | [part], _ => rfl
  | first :: second :: rest, _ =>
      refine absurd rfl (hname ':' ?_)
      rw [h.joined, String.intercalate_cons_cons, String.toList_append, String.toList_append]
      exact List.mem_append_left _ (List.mem_append_right _ (by decide))

lemma Qualifies.isIdentifier_iff {parts : List String} {name : String} (h : Qualifies parts name) :
    isIdentifier name = true ↔ parts.length = 1 := by
  constructor
  · intro hname
    refine h.length_eq_one_of_forall fun c hc heq => ?_
    exact not_mem_of_isIdentifier hname (by decide) (heq ▸ hc)
  · intro hlength
    obtain ⟨part, rfl⟩ := List.length_eq_one_iff.mp hlength
    rw [h.joined, String.intercalate_singleton]
    exact h.identifiers part List.mem_cons_self

/-- The name is identifiers joined by `::`. -/
def IsQualifiedName (name : String) : Prop := ∃ parts, Qualifies parts name

/-- A qualified name holds letters, digits, underscores and colons only. -/
lemma IsQualifiedName.not_mem {name : String} (h : IsQualifiedName name) {c : Char}
    (hrest : isIdentifierRest c = false) (hcolon : c ≠ ':') : c ∉ name.toList := by
  obtain ⟨parts, hidentifiers, rfl, -⟩ := h
  exact not_mem_intercalate (by simpa using hcolon) fun part hpart =>
    not_mem_of_isIdentifier (hidentifiers part hpart) hrest

lemma not_isQualifiedName_empty : ¬ IsQualifiedName "" := by
  rintro ⟨parts, hidentifiers, hjoined, hne⟩
  match parts, hne with
  | [part], _ =>
      rw [String.intercalate_singleton] at hjoined
      exact absurd (hidentifiers part List.mem_cons_self) (hjoined ▸ by decide)
  | first :: second :: rest, _ =>
      rw [String.intercalate_cons_cons, eq_comm, String.append_eq_empty_iff,
        String.append_eq_empty_iff] at hjoined
      exact absurd hjoined.1.2 (by decide)

end LuaBinder.Text
