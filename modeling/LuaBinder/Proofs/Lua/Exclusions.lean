import LuaBinder.Proofs.Lua.ClassNames

/-!
Functions that are left out although nothing in them is unsupported.

* `isNativePointer_of_ofType?`: what can be converted is no pointer to scalars, so the check for
  such results leaves out nothing that the check of conversions lets pass.
* `exclusion?_of_identifier`: of the convertible functions with an identifier for a name, without
  templates and not named in the options, those are left out whose names start like an operator.
-/

namespace LuaBinder.Lua

open Text

/-- What can be converted is no pointer to scalars, unless it is a string. -/
lemma isNativePointer_of_ofType? {t : DeclaredType} {c : Conversion}
    (h : Conversion.ofType? t = some c) : t.isNativePointer = false := by
  by_contra hpointer
  rw [Bool.not_eq_false, DeclaredType.isNativePointer, Bool.and_eq_true, Bool.and_eq_true,
    Bool.not_eq_true'] at hpointer
  obtain ⟨⟨hstar, hnative⟩, hstring⟩ := hpointer
  have hstars : 0 < t.stars := by
    rw [DeclaredType.isPointer, endsWith, beq_iff_eq] at hstar
    exact List.count_pos_iff.mpr (List.mem_of_getLast? hstar)
  have htext : (t.base == "std::string" && t.stars == 0) = false := by
    rw [Bool.and_eq_false_iff]
    exact .inr (beq_false_of_ne hstars.ne')
  rw [Conversion.ofType?, hstring, htext, hnative, if_neg Bool.false_ne_true,
    if_neg Bool.false_ne_true, if_pos rfl, if_pos hstars] at h
  cases h

/-- So the result of a convertible function is none. -/
lemma returnsNativePointer_of_isConvertible {f : FunctionDecl} (h : isConvertible f = true) :
    f.returnsNativePointer = false := by
  rw [FunctionDecl.returnsNativePointer]
  cases hresult : f.result? with
  | none => rfl
  | some a =>
      have ha : a ∈ declaredValues f :=
        List.mem_append_right _ (Option.mem_toList.mpr hresult)
      obtain ⟨c, hc⟩ := exists_ofType?_of_mem_declaredValues h ha
      exact isNativePointer_of_ofType? hc

/-- An identifier starts with a letter or an underscore. -/
lemma not_startsWith_of_isIdentifier {name : String} (h : isIdentifier name = true) :
    startsWith "~" name = false := by
  rw [isIdentifier] at h
  cases hname : name.toList with
  | nil => rw [startsWith, hname]; rfl
  | cons c cs =>
      rw [hname, isIdentifierChars, Bool.and_eq_true] at h
      have hc : '~' ≠ c := by
        rintro rfl
        exact absurd h.1 (by decide)
      have hhead : afterHead? ['~'] (c :: cs) = none := by rw [afterHead?, if_neg hc]
      rw [startsWith, hname]
      exact congrArg Option.isSome hhead

/-- **Names that start like an operator.** A convertible function that is named by an identifier,
shows no closing bracket in its signature and in the type of its result, and is not named in the
options, is left out exactly when its name starts with the word `operator`, and then as one. -/
theorem exclusion?_of_identifier (o : Options) (f : FunctionDecl)
    (hname : isIdentifier f.name = true) (hconvertible : isConvertible f = true)
    (hresult : ∀ text ∈ f.resultText?, '>' ∉ text.toList) (hsignature : '>' ∉ f.signature.toList)
    (hbare : f.name ∉ o.ignored) (hqualified : f.qualifiedName ∉ o.ignored) :
    exclusion? o f = if startsWith "operator" f.name then some .operator else none := by
  have htemplate : f.resultText?.any (endsWith '>') = false := by
    cases htext : f.resultText? with
    | none => rfl
    | some text =>
        rw [Option.any_some, endsWith, beq_eq_false_iff_ne]
        exact fun hlast => hresult text htext (List.mem_of_getLast? hlast)
  have hbracket : f.signature.toList.contains '>' = false := by
    rw [← Bool.not_eq_true, List.contains_iff_mem]
    exact hsignature
  have hnames : o.names f = false := by
    rw [Options.names, List.any_eq_false]
    intro ignored hignored
    rw [Bool.or_eq_true, beq_iff_eq, beq_iff_eq]
    rintro (rfl | rfl)
    · exact hbare hignored
    · exact hqualified hignored
  rw [exclusion?, not_startsWith_of_isIdentifier hname, htemplate,
    returnsNativePointer_of_isConvertible hconvertible, hbracket, hconvertible, hnames]
  rfl

/-- A method of an image that takes an array and a text and gives a text. -/
def imageMember (name : String) : FunctionDecl where
  owner := some (.ofClass "Image" (some "gfx"))
  name := name
  scope := "Image"
  overload := none
  node := {
    name := name
    result := "const char *"
    params := [
      { tag := "param"
        content := [("type", "double"), ("declname", "at"), ("array", "[3]")].map
          fun (tag, text) => (Element.ofText tag text).toMarkup },
      Sketch.param "const std::string &" "mode" (some "\"\"")] : Sketch }.declare

/-- The word at another place of the name does not matter, and neither do other ignored names. -/
theorem exclusion?_of_identifier_cooperator :
    isIdentifier "cooperator" = true ∧ isConvertible (imageMember "cooperator") = true
      ∧ (∀ text ∈ (imageMember "cooperator").resultText?, '>' ∉ text.toList)
      ∧ '>' ∉ (imageMember "cooperator").signature.toList
      ∧ "cooperator" ∉ ["operator", "Image"]
      ∧ (imageMember "cooperator").qualifiedName ∉ ["operator", "Image"]
      ∧ exclusion? { ignored := ["operator", "Image"] } (imageMember "cooperator") = none := by
  have hname : isIdentifier "cooperator" = true := by decide
  have hconvertible : isConvertible (imageMember "cooperator") = true := by decide +kernel
  have hresult : ∀ text ∈ (imageMember "cooperator").resultText?, '>' ∉ text.toList := by
    decide +kernel
  have hsignature : '>' ∉ (imageMember "cooperator").signature.toList := by decide +kernel
  have hbare : "cooperator" ∉ ["operator", "Image"] := by decide
  have hqualified : (imageMember "cooperator").qualifiedName ∉ ["operator", "Image"] := by decide
  exact ⟨hname, hconvertible, hresult, hsignature, hbare, hqualified,
    exclusion?_of_identifier { ignored := ["operator", "Image"] } (imageMember "cooperator") hname
      hconvertible hresult hsignature hbare hqualified⟩

/-- A member is left out as an operator although it is none. -/
theorem operators_left_out :
    isIdentifier "operators" = true ∧ isConvertible (imageMember "operators") = true
      ∧ (∀ a ∈ declaredValues (imageMember "operators"),
        '<' ∉ a.type.text.toList ∧ '>' ∉ a.type.text.toList)
      ∧ '<' ∉ (imageMember "operators").signature.toList
      ∧ '>' ∉ (imageMember "operators").signature.toList
      ∧ exclusion? {} (imageMember "operators") = some .operator := by
  decide +kernel

end LuaBinder.Lua
