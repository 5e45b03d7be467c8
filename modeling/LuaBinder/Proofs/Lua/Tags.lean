import LuaBinder.Decl.Sketch
import LuaBinder.Proofs.Decl.Grouping
import LuaBinder.Proofs.Lua.Rendering

/-!
The metatables under which objects cross between C++ and Lua.

Objects of all classes are userdata, and the name of a metatable is all that tells one class from
another. It is made from the library and from the last segment of the C++ type.

* `Handles`: the code for a function reads, tests or pushes an object of a type under a tag.
* `handles_iff`: it does so for the class types of its declaration, under one tag for each.
* `library_of_mem_allFunctions`: all functions of a namespace share a library.
* `tags_equal_iff`: two types share a tag exactly when their last segments agree.
-/

namespace LuaBinder.Lua

open Code Text

/-! ### Class types -/

/-- The class of the objects that a conversion carries. -/
def Conversion.className? : Conversion → Option String
  | .object className _ => some className
  | _ => none

/-- The class type of an argument or of a return value. -/
def classTypeOf? (a : Argument) : Option String :=
  (Conversion.ofType? a.type).bind Conversion.className?

/-- The class types of a declaration: that of the object it is called on, and those of its arguments
and of its return value. -/
def classTypes (f : FunctionDecl) : List String :=
  (if Signature.needsSelf f then [f.scope] else [])
    ++ (f.formals ++ f.result?.toList).filterMap classTypeOf?

lemma className?_eq_some_iff {c : Conversion} {type : String} :
    c.className? = some type ↔ ∃ byPointer, c = .object type byPointer := by
  cases c with
  | object className byPointer => simp [Conversion.className?]
  | _ => simp [Conversion.className?]

lemma classTypeOf?_eq_some_iff {a : Argument} {type : String} :
    classTypeOf? a = some type
      ↔ ∃ byPointer, Conversion.ofType? a.type = some (.object type byPointer) := by
  rw [classTypeOf?, Option.bind_eq_some_iff]
  simp only [className?_eq_some_iff]
  exact ⟨fun ⟨_, hc, byPointer, h⟩ => ⟨byPointer, h ▸ hc⟩,
    fun ⟨byPointer, h⟩ => ⟨_, h, byPointer, rfl⟩⟩

/-! ### Tags in the code -/

/-- The statement that reads an object: the slot must hold userdata with the metatable `tag`. -/
def objectFetch (type var : String) (slot : Slot) (tag : String) : String :=
  type ++ " *" ++ var ++ " = *((" ++ type ++ " **)dubL_checkudata(L, " ++ slot.text
    ++ ", \"" ++ tag ++ "\"));"

lemma objectFetch_inj {type var tag tag' : String} {slot : Slot} :
    objectFetch type var slot tag = objectFetch type var slot tag' ↔ tag = tag' := by
  dsimp only [objectFetch]
  rw [String.append_left_inj, String.append_right_inj]

/-- The metatable of a pushed object. -/
def Push.tag? : Push → Option String
  | .pointer _ tag _ => some tag
  | .copy _ _ tag => some tag
  | _ => none

/-- The parameters that a wrapper reads, on some way or on all of them. -/
def Wrapper.reads (w : Wrapper) : List Parameter := w.fetched ++ w.branches.flatMap Branch.fetched

/-- The code for a function reads, tests or pushes an object of a C++ type under a tag: the object
that it is called on, an argument, an argument that a chooser looks at, or the return value. -/
inductive Handles (f : FunctionDecl) (type tag : String) : Prop where
  | self {w : Wrapper} (made : Wrapper.ofFunction f = .ok w) (declared : w.selfClass = some type)
      (reads : Step.line (objectFetch type selfVar (.index 1) tag) ∈ w.selfSteps)
  | argument {w : Wrapper} {p : Parameter} {byPointer : Bool}
      (made : Wrapper.ofFunction f = .ok w) (read : p ∈ w.reads)
      (declared : p.shape = .value (.object type byPointer))
      (reads : Step.line (objectFetch type p.name (.index p.slot) tag) ∈ p.fetch w.library)
  | test {s : Signature} {p : Parameter} {byPointer : Bool} (made : signatureOf f = .ok s)
      (mandatory : p ∈ s.mandatory) (declared : p.shape = .value (.object type byPointer))
      (tests : p.test s.library = .object tag)
  | result {w : Wrapper} {r : Result} {byPointer : Bool} (made : Wrapper.ofFunction f = .ok w)
      (returned : w.result? = some r) (declared : r.conversion = .object type byPointer)
      (pushes : (w.resultPush r).tag? = some tag)

/-- A wrapper is made from a signature that describes the function. -/
lemma exists_describes_of_ofFunction {f : FunctionDecl} {w : Wrapper}
    (h : Wrapper.ofFunction f = .ok w) :
    ∃ s : Signature, s.Describes f ∧ w = Wrapper.ofSignature f s := by
  obtain ⟨s, hs, rfl⟩ := map_eq_ok_iff.mp h
  exact ⟨s, Signature.describes_of_ofFunction (signatureOf_eq_ok_iff.mp hs), rfl⟩

/-- The wrapper of a signature reads its parameters. -/
lemma mem_reads_ofSignature {f : FunctionDecl} {s : Signature} {p : Parameter} :
    p ∈ (Wrapper.ofSignature f s).reads ↔ p ∈ s.parameters := by
  rw [Wrapper.reads, List.mem_append, List.mem_flatMap]
  constructor
  · rintro (hp | ⟨b, hb, hp⟩)
    · exact List.mem_of_mem_take hp
    · obtain ⟨i, -, rfl⟩ := List.mem_map.mp hb
      exact List.mem_of_mem_take (List.mem_of_mem_drop hp)
  · intro hp
    rw [← List.take_append_drop s.required s.parameters, List.mem_append] at hp
    refine hp.imp_right fun hp => ?_
    -- a parameter that may be left out is read on the way that passes all of them
    have hpos : 0 < s.parameters.length + 1 - s.required := by
      have hlength := List.length_pos_of_mem hp
      rw [List.length_drop] at hlength
      omega
    refine ⟨Wrapper.branchFor s (s.parameters.length - 0),
      List.mem_map_of_mem (List.mem_range.mpr hpos), ?_⟩
    rw [Wrapper.branchFor, Nat.sub_zero, List.take_length]
    exact hp

/-- The class type of a parameter is that of its argument. -/
lemma classTypeOf?_of_readsFrom {a : Argument × Nat} {p : Parameter} (h : ReadsFrom a p)
    {type : String} :
    classTypeOf? a.1 = some type ↔ ∃ byPointer, p.shape = .value (.object type byPointer) := by
  obtain ⟨c, hc, hshape⟩ := shapeOf_eq_ok_iff.mp (readsFrom_iff.mp h).1
  rw [classTypeOf?_eq_some_iff, hc]
  rcases hshape with ⟨-, hp⟩ | ⟨suffix, length, -, -, hscalar, hp⟩
  · rw [hp]
    simp
  · -- the elements of an array are scalars
    rw [hp]
    constructor
    · rintro ⟨byPointer, heq⟩
      cases heq
      cases hscalar
    · rintro ⟨byPointer, heq⟩
      cases heq

/-- What holds of the parameters exactly when it holds of the arguments that they read. -/
lemma exists_argument_iff {f : FunctionDecl} {s : Signature} (h : s.Describes f)
    {declared : Argument → Prop} {read : Parameter → Prop}
    (hreads : ∀ {a : Argument × Nat} {p : Parameter}, ReadsFrom a p → (declared a.1 ↔ read p)) :
    (∃ a ∈ f.formals, declared a) ↔ ∃ p ∈ s.parameters, read p := by
  constructor
  · rintro ⟨a, ha, hdeclared⟩
    rw [← f.map_fst_placed] at ha
    obtain ⟨entry, hentry, rfl⟩ := List.mem_map.mp ha
    obtain ⟨p, hp, hfrom⟩ := exists_right_of_mem h.parameters hentry
    exact ⟨p, hp, (hreads hfrom).mp hdeclared⟩
  · rintro ⟨p, hp, hread⟩
    obtain ⟨entry, hentry, hfrom⟩ := exists_left_of_mem h.parameters hp
    refine ⟨entry.1, ?_, (hreads hfrom).mpr hread⟩
    rw [← f.map_fst_placed]
    exact List.mem_map_of_mem hentry

/-- The class types of the parameters are those of the declared arguments. -/
lemma exists_parameter_iff {f : FunctionDecl} {s : Signature} (h : s.Describes f) {type : String} :
    (∃ a ∈ f.formals, classTypeOf? a = some type)
      ↔ ∃ p ∈ s.parameters, ∃ byPointer, p.shape = .value (.object type byPointer) :=
  exists_argument_iff h fun hreads => classTypeOf?_of_readsFrom hreads

/-- The class type of the result is that of the declared return value. -/
lemma exists_result_iff {f : FunctionDecl} {s : Signature} (h : s.Describes f) {type : String} :
    (∃ a ∈ f.result?, classTypeOf? a = some type)
      ↔ ∃ r ∈ s.result?, ∃ byPointer, r.conversion = .object type byPointer := by
  have hresult := h.result
  rw [Signature.resultOf] at hresult
  split at hresult
  · next hnone =>
      rw [hnone, ← Except.ok.inj hresult]
      simp
  · next a ha =>
      split at hresult
      · cases hresult
      · next c hc =>
          rw [ha, ← Except.ok.inj hresult]
          simp [classTypeOf?_eq_some_iff, hc]

lemma mem_classTypes {f : FunctionDecl} {type : String} :
    type ∈ classTypes f ↔ (Signature.needsSelf f = true ∧ type = f.scope)
      ∨ (∃ a ∈ f.formals, classTypeOf? a = some type)
      ∨ ∃ a ∈ f.result?, classTypeOf? a = some type := by
  have hself : type ∈ (if Signature.needsSelf f then [f.scope] else [])
      ↔ Signature.needsSelf f = true ∧ type = f.scope := by
    split
    · next h => simp [h]
    · next h => simp [h]
  rw [classTypes, List.mem_append, hself, List.mem_filterMap]
  simp only [List.mem_append, or_and_right, exists_or, Option.mem_toList, Option.mem_def]

/-- The code for a convertible function handles the class types of its declaration, each under the
tag that its last segment makes in the library of the function. -/
lemma handles_iff {f : FunctionDecl} {type tag : String} :
    Handles f type tag
      ↔ isConvertible f = true ∧ type ∈ classTypes f ∧ tag = registryTag f.library type := by
  rw [← exists_wrapper_iff, mem_classTypes]
  constructor
  · intro h
    cases h with
    | @self w made declared reads =>
        obtain ⟨s, hs, rfl⟩ := exists_describes_of_ofFunction made
        have hself : Signature.needsSelf f = true ∧ type = f.scope := by
          rw [← hs.hasSelf]
          simp only [Wrapper.ofSignature] at declared
          split at declared
          · next h => exact ⟨h, (Option.some.inj declared).symm⟩
          · cases declared
        rw [Wrapper.selfSteps, declared] at reads
        have htag := objectFetch_inj.mp (Step.line.inj (List.mem_singleton.mp reads))
        exact ⟨⟨_, made⟩, .inl hself, hs.library ▸ htag⟩
    | @argument w p byPointer made read declared reads =>
        obtain ⟨s, hs, rfl⟩ := exists_describes_of_ofFunction made
        have hp := mem_reads_ofSignature.mp read
        rw [Parameter.fetch, declared] at reads
        have htag := objectFetch_inj.mp (Step.line.inj (List.mem_singleton.mp reads))
        exact ⟨⟨_, made⟩, .inr (.inl ((exists_parameter_iff hs).mpr ⟨p, hp, byPointer, declared⟩)),
          hs.library ▸ htag⟩
    | @test s p byPointer made mandatory declared tests =>
        have hs := Signature.describes_of_ofFunction (signatureOf_eq_ok_iff.mp made)
        have hp := List.mem_of_mem_take mandatory
        rw [Parameter.test, declared] at tests
        have htag := SlotTest.object.inj tests
        exact ⟨⟨_, map_eq_ok_iff.mpr ⟨s, made, rfl⟩⟩,
          .inr (.inl ((exists_parameter_iff hs).mpr ⟨p, hp, byPointer, declared⟩)),
          hs.library ▸ htag.symm⟩
    | @result w r byPointer made returned declared pushes =>
        obtain ⟨s, hs, rfl⟩ := exists_describes_of_ofFunction made
        rw [Wrapper.resultPush, declared] at pushes
        have htag : tag = registryTag s.library type := by
          cases byPointer with
          | true => exact (Option.some.inj pushes).symm
          | false => exact (Option.some.inj pushes).symm
        exact ⟨⟨_, made⟩,
          .inr (.inr ((exists_result_iff hs).mpr ⟨r, returned, byPointer, declared⟩)),
          hs.library ▸ htag⟩
  · rintro ⟨⟨w, made⟩, htype, rfl⟩
    obtain ⟨s, hs, rfl⟩ := exists_describes_of_ofFunction made
    rw [← hs.library]
    rcases htype with ⟨hself, rfl⟩ | hargument | hresult
    · have hclass : (Wrapper.ofSignature f s).selfClass = some f.scope := by
        rw [Wrapper.ofSignature, hs.hasSelf, if_pos hself]
      refine .self made hclass ?_
      rw [Wrapper.selfSteps, hclass]
      exact List.mem_singleton.mpr rfl
    · obtain ⟨p, hp, byPointer, declared⟩ := (exists_parameter_iff hs).mp hargument
      refine .argument made (mem_reads_ofSignature.mpr hp) declared ?_
      rw [Parameter.fetch, declared]
      exact List.mem_singleton.mpr rfl
    · obtain ⟨r, returned, byPointer, declared⟩ := (exists_result_iff hs).mp hresult
      refine .result made returned declared ?_
      rw [Wrapper.resultPush, declared]
      cases byPointer with
      | true => rfl
      | false => rfl

/-! ### Libraries -/

/-- All functions of a namespace deal with its classes. -/
lemma library_of_mem_allFunctions {name : String} {classes : List ClassSource}
    {functions : List Element} {f : FunctionDecl}
    (h : f ∈ (NamespaceDecl.ofSources name classes functions).allFunctions) : f.library = name := by
  rw [NamespaceDecl.allFunctions, List.mem_append] at h
  rcases h with h | h
  · obtain ⟨c, hc, hf⟩ := List.mem_flatMap.mp h
    obtain ⟨source, -, rfl⟩ := List.mem_map.mp hc
    rw [FunctionDecl.library, (grouping_ofSource (some name) source).owner_of_mem hf]
    rfl
  · rw [FunctionDecl.library, (grouping_ofSources name classes functions).owner_of_mem h]
    rfl

lemma registryTag_eq_iff {library type type' : String} :
    registryTag library type = registryTag library type' ↔ lastName type = lastName type' := by
  rw [registryTag, registryTag]
  split
  · exact Iff.rfl
  · exact String.append_right_inj _

/-- **Tags and types.** Two functions of a namespace handle objects under the same tag exactly when
the last segments of their C++ types agree: an object that one of them pushes passes the checks of
the other for every type with this last segment, whatever qualifies it. -/
theorem tags_equal_iff (name : String) (classes : List ClassSource) (functions : List Element)
    (n : NamespaceDecl) (hn : n = .ofSources name classes functions) (f g : FunctionDecl)
    (hf : f ∈ n.allFunctions) (hg : g ∈ n.allFunctions) (type type' tag tag' : String)
    (hfirst : Handles f type tag) (hsecond : Handles g type' tag') :
    tag = tag' ↔ lastName type = lastName type' := by
  subst hn
  obtain ⟨-, -, rfl⟩ := handles_iff.mp hfirst
  obtain ⟨-, -, rfl⟩ := handles_iff.mp hsecond
  rw [library_of_mem_allFunctions hf, library_of_mem_allFunctions hg]
  exact registryTag_eq_iff

/-- A namespace with a function that makes a point of one type, and one that takes a point of
another type. -/
def pointNamespace (made taken : String) : NamespaceDecl :=
  .ofSources "gfx" []
    [{ name := "origin", result := made ++ " *" : Sketch }.declare,
     { name := "move", result := "void"
       params := [Sketch.param (taken ++ " *") "point" none] : Sketch }.declare]

/-- The tag of a type does not depend on whether the namespace qualifies it. -/
theorem tags_equal_point :
    ∃ f g, (pointNamespace "gfx::Point" "Point").allFunctions = [f, g]
      ∧ Handles f "gfx::Point" "gfx.Point" ∧ Handles g "Point" "gfx.Point"
      ∧ lastName "gfx::Point" = lastName "Point" := by
  have hpair : ∃ f g, (pointNamespace "gfx::Point" "Point").allFunctions = [f, g]
      ∧ Handles f "gfx::Point" "gfx.Point" ∧ Handles g "Point" "gfx.Point" := by
    refine ⟨_, _, rfl, handles_iff.mpr ?_, handles_iff.mpr ?_⟩
    · decide +kernel
    · decide +kernel
  obtain ⟨f, g, hall, hfirst, hsecond⟩ := hpair
  refine ⟨f, g, hall, hfirst, hsecond, ?_⟩
  exact (tags_equal_iff "gfx" [] _ (pointNamespace "gfx::Point" "Point") rfl f g (by simp [hall])
    (by simp [hall]) _ _ _ _ hfirst hsecond).mp rfl

/-- A type without the namespace in front of it. -/
def withoutLibrary (library type : String) : String :=
  match afterHead? (library ++ "::").toList type.toList with
  | some rest => String.ofList rest
  | none => type

/-- Classes of one name in different namespaces share a tag: what is pushed as one of them can be
read as the other. -/
theorem tags_shared_point :
    ∃ f g, (pointNamespace "a::Point" "b::Point").allFunctions = [f, g]
      ∧ isExcluded {} f = false ∧ isExcluded {} g = false
      ∧ Handles f "a::Point" "gfx.Point" ∧ Handles g "b::Point" "gfx.Point"
      ∧ withoutLibrary "gfx" "a::Point" ≠ withoutLibrary "gfx" "b::Point" := by
  refine ⟨_, _, rfl, ?_, ?_, handles_iff.mpr ?_, handles_iff.mpr ?_, ?_⟩
  · decide +kernel
  · decide +kernel
  · decide +kernel
  · decide +kernel
  · decide

end LuaBinder.Lua
