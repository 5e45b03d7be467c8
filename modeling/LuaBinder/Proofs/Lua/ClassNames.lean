import LuaBinder.Proofs.Lua.Tags
import LuaBinder.Proofs.Text.Identifier

/-!
The names of the classes that the generated code mentions.

What is no string, no scalar and none of the types without a conversion is an object, and the class
of the object is named by all words of the declared type that are no qualifiers.

* `Carries`: the code for a function reads, tests or pushes objects of a class.
* `carries_iff`: these are the class types of the arguments and of the return value.
* `isQualifiedName_base_iff`: the words of a type make a qualified name when there is only one and
  it is such a name.
* `class_names_iff`: the classes of a function with bindings are all named by qualified names
  exactly when every declared type is a scalar or one qualified name.
-/

namespace LuaBinder.Lua

open Text

/-! ### Classes in the code -/

/-- The conversion of a single value, or that of the elements of an array. -/
def Shape.conversion : Shape → Conversion
  | .value conversion => conversion
  | .array element _ => element

/-- The code for a function reads, tests or pushes objects of a class: its wrapper reads an
argument or pushes the return value, or a chooser looks at an argument. -/
inductive Carries (f : FunctionDecl) (type : String) : Prop where
  | argument {w : Wrapper} {p : Parameter} (made : Wrapper.ofFunction f = .ok w)
      (read : p ∈ w.reads) (carried : p.shape.conversion.className? = some type)
  | test {s : Signature} {p : Parameter} (made : signatureOf f = .ok s)
      (mandatory : p ∈ s.mandatory) (carried : p.shape.conversion.className? = some type)
  | result {w : Wrapper} {r : Result} (made : Wrapper.ofFunction f = .ok w)
      (returned : w.result? = some r) (carried : r.conversion.className? = some type)

/-- The arguments of a function, variadic ones left out, and its return value. -/
def declaredValues (f : FunctionDecl) : List Argument := f.formals ++ f.result?.toList

lemma exists_declaredValue_iff {f : FunctionDecl} {p : Argument → Prop} :
    (∃ a ∈ declaredValues f, p a) ↔ (∃ a ∈ f.formals, p a) ∨ ∃ a ∈ f.result?, p a := by
  simp only [declaredValues, List.mem_append, or_and_right, exists_or, Option.mem_toList,
    Option.mem_def]

/-- A parameter is converted as the type of its argument says. -/
lemma ofType?_of_readsFrom {a : Argument × Nat} {p : Parameter} (h : ReadsFrom a p) :
    Conversion.ofType? a.1.type = some p.shape.conversion := by
  obtain ⟨c, hc, hshape⟩ := shapeOf_eq_ok_iff.mp (readsFrom_iff.mp h).1
  rcases hshape with ⟨-, hp⟩ | ⟨suffix, length, -, -, -, hp⟩
  · rw [hp]
    exact hc
  · rw [hp]
    exact hc

/-- The classes of the parameters are the class types of the declared arguments. -/
lemma exists_carried_parameter_iff {f : FunctionDecl} {s : Signature} (h : s.Describes f)
    {type : String} : (∃ a ∈ f.formals, classTypeOf? a = some type)
      ↔ ∃ p ∈ s.parameters, p.shape.conversion.className? = some type := by
  refine exists_argument_iff h fun hreads => ?_
  rw [classTypeOf?, ofType?_of_readsFrom hreads, Option.bind_some]

/-- The class of the result is the class type of the declared return value. -/
lemma exists_carried_result_iff {f : FunctionDecl} {s : Signature} (h : s.Describes f)
    {type : String} : (∃ a ∈ f.result?, classTypeOf? a = some type)
      ↔ ∃ r ∈ s.result?, r.conversion.className? = some type := by
  simp only [className?_eq_some_iff]
  exact exists_result_iff h

/-- The values of a convertible function all have conversions. -/
lemma exists_ofType?_of_mem_declaredValues {f : FunctionDecl} (h : isConvertible f = true)
    {a : Argument} (ha : a ∈ declaredValues f) : ∃ c, Conversion.ofType? a.type = some c := by
  obtain ⟨s, hs⟩ := exists_signature h
  have hdescribes := Signature.describes_of_ofFunction hs
  rcases List.mem_append.mp ha with ha | ha
  · rw [← f.map_fst_placed] at ha
    obtain ⟨entry, hentry, rfl⟩ := List.mem_map.mp ha
    obtain ⟨p, -, hreads⟩ := exists_right_of_mem hdescribes.parameters hentry
    exact ⟨_, ofType?_of_readsFrom hreads⟩
  · have hresult := hdescribes.result
    rw [Signature.resultOf, Option.mem_toList.mp ha] at hresult
    dsimp only at hresult
    split at hresult
    · cases hresult
    · next c hc => exact ⟨c, hc⟩

/-- The code for a convertible function deals with the class types of its declared values. -/
lemma carries_iff {f : FunctionDecl} {type : String} : Carries f type
    ↔ isConvertible f = true ∧ ∃ a ∈ declaredValues f, classTypeOf? a = some type := by
  rw [exists_declaredValue_iff]
  constructor
  · intro h
    cases h with
    | @argument w p made read carried =>
        obtain ⟨s, hs, rfl⟩ := exists_describes_of_ofFunction made
        exact ⟨exists_wrapper_iff.mp ⟨_, made⟩, .inl ((exists_carried_parameter_iff hs).mpr
          ⟨p, mem_reads_ofSignature.mp read, carried⟩)⟩
    | @test s p made mandatory carried =>
        have hs := Signature.describes_of_ofFunction (signatureOf_eq_ok_iff.mp made)
        exact ⟨isConvertible_iff.mpr ⟨s, signatureOf_eq_ok_iff.mp made⟩,
          .inl ((exists_carried_parameter_iff hs).mpr
            ⟨p, List.mem_of_mem_take mandatory, carried⟩)⟩
    | @result w r made returned carried =>
        obtain ⟨s, hs, rfl⟩ := exists_describes_of_ofFunction made
        exact ⟨exists_wrapper_iff.mp ⟨_, made⟩,
          .inr ((exists_carried_result_iff hs).mpr ⟨r, returned, carried⟩)⟩
  · rintro ⟨hconvertible, hvalue⟩
    obtain ⟨w, made⟩ := exists_wrapper_iff.mpr hconvertible
    obtain ⟨s, hs, rfl⟩ := exists_describes_of_ofFunction made
    rcases hvalue with hargument | hresult
    · obtain ⟨p, hp, carried⟩ := (exists_carried_parameter_iff hs).mp hargument
      exact .argument made (mem_reads_ofSignature.mpr hp) carried
    · obtain ⟨r, returned, carried⟩ := (exists_carried_result_iff hs).mp hresult
      exact .result made returned carried

/-! ### The words of a type -/

/-- Words with a space between them are no qualified name, and neither is no word at all. -/
lemma isQualifiedName_base_iff {t : DeclaredType} :
    IsQualifiedName t.base ↔ ∃ word, t.baseWords = [word] ∧ IsQualifiedName word := by
  rw [DeclaredType.base]
  match t.baseWords with
  | [] =>
      refine iff_of_false not_isQualifiedName_empty ?_
      rintro ⟨word, heq, -⟩
      cases heq
  | [word] =>
      rw [String.intercalate_singleton]
      exact ⟨fun h => ⟨word, rfl, h⟩, fun ⟨_, heq, h⟩ => List.singleton_inj.mp heq ▸ h⟩
  | first :: second :: rest =>
      refine iff_of_false (fun h => ?_) ?_
      · refine h.not_mem (c := ' ') (by decide) (by decide) ?_
        rw [String.intercalate_cons_cons, String.toList_append, String.toList_append]
        exact List.mem_append_left _ (List.mem_append_right _ (by decide))
      · rintro ⟨word, heq, -⟩
        cases heq

/-- A string is a pointer to scalars. -/
lemma isNative_of_isString {t : DeclaredType} (h : t.isString = true) : t.isNative = true := by
  rw [DeclaredType.isString, Bool.and_eq_true, beq_iff_eq] at h
  rw [DeclaredType.isNative, h.1]
  decide

lemma isScalar_ofNative (type : String) : (Conversion.ofNative type).isScalar = true := by
  unfold Conversion.ofNative
  split_ifs <;> rfl

/-- An object has the class that its type names, and its type is no scalar. -/
lemma base_of_classTypeOf? {a : Argument} {type : String} (h : classTypeOf? a = some type) :
    type = a.type.base ∧ a.type.isNative = false := by
  obtain ⟨byPointer, hc⟩ := classTypeOf?_eq_some_iff.mp h
  rcases Conversion.ofType?_cases hc with ⟨-, heq⟩ | ⟨-, heq⟩ | ⟨-, heq⟩ | ⟨hnative, heq⟩
  · cases heq
  · cases heq
  · have hscalar := isScalar_ofNative a.type.base
    rw [← heq] at hscalar
    cases hscalar
  · cases heq
    exact ⟨rfl, hnative⟩

/-! ### Qualified names -/

/-- **Names of classes.** The classes of the objects that the code for a function with bindings
reads, tests or pushes are all named by identifiers joined by `::` exactly when every declared type
is a scalar, or such a name and nothing more once qualifiers, stars and ampersands are gone. -/
theorem class_names_iff (o : Options) (f : FunctionDecl) (hkept : exclusion? o f = none) :
    (∀ type, Carries f type → IsQualifiedName type) ↔ ∀ a ∈ declaredValues f,
      a.type.isNative = true ∨ ∃ word, a.type.baseWords = [word] ∧ IsQualifiedName word := by
  have hconvertible := isConvertible_of_exclusion?_eq_none hkept
  simp only [← isQualifiedName_base_iff]
  constructor
  · intro h a ha
    obtain ⟨c, hc⟩ := exists_ofType?_of_mem_declaredValues hconvertible ha
    rcases Conversion.ofType?_cases hc with ⟨hstring, -⟩ | ⟨htext, -⟩ | ⟨hnative, -⟩ | ⟨-, hobject⟩
    · exact .inl (isNative_of_isString hstring)
    · refine .inr ⟨["std", "string"], by decide, ?_, List.cons_ne_nil _ _⟩
      rw [htext]
      rfl
    · exact .inl hnative
    · refine .inr (h _ (carries_iff.mpr ⟨hconvertible, a, ha, ?_⟩))
      exact classTypeOf?_eq_some_iff.mpr ⟨_, hobject ▸ hc⟩
  · intro h type hcarries
    obtain ⟨-, a, ha, htype⟩ := carries_iff.mp hcarries
    obtain ⟨rfl, hnative⟩ := base_of_classTypeOf? htype
    exact (h a ha).resolve_left (by simp [hnative])

/-- A namespace with a function that takes values of the given types. -/
def takingNamespace (types : List String) : NamespaceDecl :=
  .ofSources "lib" []
    [{ name := "each", result := "void"
       params := types.map (Sketch.param · "" none) : Sketch }.declare]

/-- Scalars of several words do not matter, and names may be qualified. -/
theorem class_names_shape : ∃ f,
    (takingNamespace ["const lib::Shape &", "unsigned long", "std::string"]).allFunctions = [f]
      ∧ exclusion? {} f = none ∧ Carries f "lib::Shape"
      ∧ ∀ type, Carries f type → IsQualifiedName type := by
  have hvalues : ∃ f,
      (takingNamespace ["const lib::Shape &", "unsigned long", "std::string"]).allFunctions = [f]
        ∧ exclusion? {} f = none ∧ Carries f "lib::Shape"
        ∧ ∀ a ∈ declaredValues f, a.type.isNative = true ∨ a.type.baseWords = ["lib::Shape"]
          ∨ a.type.baseWords = ["std::string"] :=
    ⟨_, rfl, by decide +kernel, carries_iff.mpr (by decide +kernel), by decide +kernel⟩
  obtain ⟨f, hall, hkept, hcarries, hwords⟩ := hvalues
  refine ⟨f, hall, hkept, hcarries, (class_names_iff {} f hkept).mpr fun a ha => ?_⟩
  rcases hwords a ha with hnative | hshape | htext
  · exact .inl hnative
  · exact .inr ⟨_, hshape, ["lib", "Shape"], by decide, by decide, by decide⟩
  · exact .inr ⟨_, htext, ["std", "string"], by decide, by decide, by decide⟩

/-- A pointer to a function counts as an object of a class with a name that no class has. -/
theorem class_name_of_function_pointer : ∃ f,
    (takingNamespace ["void(*)(int)"]).allFunctions = [f] ∧ exclusion? {} f = none
      ∧ Carries f "void( )(int)" ∧ ¬ IsQualifiedName "void( )(int)" := by
  refine ⟨_, rfl, by decide +kernel, carries_iff.mpr (by decide +kernel), fun h => ?_⟩
  exact h.not_mem (c := '(') (by decide) (by decide) (by decide)

end LuaBinder.Lua
