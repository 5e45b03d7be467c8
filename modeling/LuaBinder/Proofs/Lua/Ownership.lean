import LuaBinder.Proofs.Lua.Path
import LuaBinder.Proofs.Lua.Tags
import LuaBinder.Proofs.Text.Lines

/-!
Which objects a wrapper leaves to Lua.

An object that is pushed as owned is deleted when Lua collects it. So it has to be one that the
wrapper made, and one that C++ only lent must not be pushed in this way.

* `Origin`: whether an object was made on the way through a wrapper.
* `ObjectExpression`: the expressions for the object that is pushed, `objectPush`: the statement
  that pushes it.
* `resultPush_text`: what a wrapper pushes is a plain value, or the object of such an expression.
* `ofType?_result_of_isConstructor`: a constructor gives a pointer to its object, which is never
  copied.
* `owned_iff_made`: on every way, an object is pushed as owned exactly when it was made on it.
-/

namespace LuaBinder

open Code Text

/-! ### Stars -/

/-- A character of a text is one of the texts that are put together from it. -/
lemma mem_intercalate {c : Char} {separator text : String} {texts : List String}
    (htext : text ∈ texts) (hc : c ∈ text.toList) : c ∈ (separator.intercalate texts).toList := by
  induction texts with
  | nil => cases htext
  | cons first rest ih =>
      cases rest with
      | nil =>
          rw [String.intercalate_singleton, ← List.mem_singleton.mp htext]
          exact hc
      | cons next rest =>
          rw [String.intercalate_cons_cons]
          simp only [String.toList_append, List.mem_append]
          rcases List.mem_cons.mp htext with rfl | htext
          · exact .inl (.inl hc)
          · exact .inr (ih htext)

/-- A star behind a name is a word of its own. -/
lemma star_mem_words (name : String) : "*" ∈ words (name ++ " *") := by
  have hpieces : pieces isBlank (name.toList ++ ' ' :: ['*'])
      = pieces isBlank name.toList ++ [['*']] :=
    pieces_append_cons (by decide) name.toList ['*']
  have hstar : ['*'] ∈ wordChars (name ++ " *").toList := by
    rw [wordChars, String.toList_append]
    show _ ∈ (pieces isBlank (name.toList ++ ' ' :: ['*'])).filter _
    rw [hpieces]
    exact List.mem_filter.mpr ⟨List.mem_append_right _ List.mem_cons_self, rfl⟩
  exact List.mem_map.mpr ⟨_, hstar, rfl⟩

/-- A pointer to a class has a star. -/
lemma stars_pointer_pos (name : String) : 0 < (DeclaredType.ofText (name ++ " *")).stars :=
  List.count_pos_iff.mpr (mem_intercalate (star_mem_words name) (by decide))

namespace Lua

/-! ### Results -/

lemma className?_ofNative (type : String) : (Conversion.ofNative type).className? = none := by
  rw [Conversion.ofNative]
  split_ifs <;> rfl

/-- The object of a class is a pointer for one star, and a value or a reference for none. -/
lemma ofType?_object {t : DeclaredType} {className : String} {byPointer : Bool}
    (h : Conversion.ofType? t = some (.object className byPointer)) :
    className = t.base ∧ t.stars = if byPointer then 1 else 0 := by
  rw [Conversion.ofType?] at h
  split_ifs at h with hstring htext hnative hpointer hother
  · cases h
  · cases h
  · have hnone := className?_ofNative t.base
    rw [Option.some.inj h] at hnone
    cases hnone
  · simp only [Bool.or_eq_true, decide_eq_true_eq, not_or, not_lt] at hother
    rw [Option.some_inj, Conversion.object.injEq] at h
    refine ⟨h.1.symm, ?_⟩
    rw [← h.2]
    have hle := hother.1.2
    cases hstars : t.stars == 1 with
    | true => exact beq_iff_eq.mp hstars
    | false =>
        have hne : t.stars ≠ 1 := by simpa using hstars
        simp only [Bool.false_eq_true, if_false]
        omega

/-- A type with a star is converted as a string, or as an object that is passed by pointer. -/
lemma ofType?_of_stars_pos {t : DeclaredType} {c : Conversion} (hstars : 0 < t.stars)
    (h : Conversion.ofType? t = some c) :
    (t.isString = true ∧ c = .cString) ∨ c = .object t.base true := by
  have hobject := h
  rw [Conversion.ofType?] at h
  split_ifs at h with hstring htext hnative hother
  · exact .inl ⟨hstring, (Option.some.inj h).symm⟩
  · rw [Bool.and_eq_true, beq_iff_eq, beq_iff_eq] at htext
    omega
  · cases h
    have hone := (ofType?_object hobject).2
    cases hbyPointer : t.stars == 1 with
    | true => exact .inr rfl
    | false =>
        rw [hbyPointer, if_neg Bool.false_ne_true] at hone
        omega

/-- What a result takes from the declared return value. -/
lemma resultOf_eq_ok_some_iff {f : FunctionDecl} {r : Result} :
    Signature.resultOf f = .ok (some r) ↔ ∃ a, f.result? = some a
      ∧ Conversion.ofType? a.type = some r.conversion ∧ r.isConst = a.type.isConst
      ∧ r.localType = a.type.localText := by
  rw [Signature.resultOf]
  cases ha : f.result? with
  | none => simp
  | some a =>
      cases hc : Conversion.ofType? a.type with
      | none => simp [hc]
      | some c =>
          obtain ⟨localType, isConst, conversion⟩ := r
          simp only [hc, Except.ok.injEq, Option.some.injEq, Result.mk.injEq, exists_eq_left']
          constructor
          · rintro ⟨rfl, rfl, rfl⟩
            exact ⟨rfl, rfl, rfl⟩
          · rintro ⟨rfl, rfl, rfl⟩
            exact ⟨rfl, rfl, rfl⟩

/-- A constructor gives a pointer to the class. -/
lemma ofType?_result_of_isConstructor {f : FunctionDecl} (h : f.isConstructor = true) {a : Argument}
    (ha : f.result? = some a) {c : Conversion} (hc : Conversion.ofType? a.type = some c) :
    (a.type.isString = true ∧ c = .cString) ∨ c = .object a.type.base true := by
  rw [FunctionDecl.result?, if_pos h] at ha
  cases ha
  exact ofType?_of_stars_pos (stars_pointer_pos f.name) hc

/-! ### Objects and where they come from -/

/-- Where an object comes from: it was made with `new` on the way through a wrapper, or C++ gave a
pointer to it. -/
inductive Origin where
  | made
  | given
  deriving DecidableEq

/-- What a call gives. -/
def Callee.origin : Callee → Origin
  | .construct _ => .made
  | _ => .given

/-- The expressions for an object that is pushed: the local variable of the return value, that
variable without its qualifier, and a copy of what it holds. -/
inductive ObjectExpression where
  | result
  | unqualified (className : String)
  | copied (className : String)
  deriving DecidableEq

namespace ObjectExpression

/-- The expression as it is written. -/
def text : ObjectExpression → String
  | .result => resultVar
  | .unqualified className => "const_cast<" ++ className ++ " *>(" ++ resultVar ++ ")"
  | .copied className => "new " ++ className ++ "(" ++ resultVar ++ ")"

/-- Where the object of an expression comes from: a copy is made, and the others are what the call
gave. -/
def origin (callee : Callee) : ObjectExpression → Origin
  | .copied _ => .made
  | _ => callee.origin

end ObjectExpression

/-- The statement that pushes an object under a tag, owned by Lua or not. -/
def objectPush (e : ObjectExpression) (tag : String) (owned : Bool) : String :=
  "dub_pushudata(L, " ++ e.text ++ ", \"" ++ tag ++ "\", "
    ++ (if owned then "true" else "false") ++ ");"

/-- The functions that push a plain value. -/
def plainPushes : List String :=
  ["lua_pushboolean", "lua_pushinteger", "lua_pushnumber", "lua_pushstring"]

/-- The expression for the object of a result. -/
def Result.expression (r : Result) (className : String) (byPointer : Bool) : ObjectExpression :=
  if byPointer then if r.isConst then .unqualified className else .result else .copied className

lemma text_copy (className tag : String) :
    (Push.copy className resultVar tag).text = objectPush (.copied className) tag true := by
  have hnew : "dub_pushudata(L, new " = "dub_pushudata(L, " ++ "new " := by decide
  have hclose : "), \"" = ")" ++ ", \"" := by decide
  have hflag : "\", true);" = "\", " ++ ("true" ++ ");") := by decide
  show "dub_pushudata(L, new " ++ className ++ "(" ++ resultVar ++ "), \"" ++ tag ++ "\", true);"
    = "dub_pushudata(L, " ++ ("new " ++ className ++ "(" ++ resultVar ++ ")") ++ ", \"" ++ tag
      ++ "\", " ++ "true" ++ ");"
  rw [hnew, hclose, hflag]
  simp only [String.append_assoc]

/-- What a wrapper pushes is an object, or a plain value. -/
lemma resultPush_text (w : Wrapper) (r : Result) :
    (r.conversion.className? = none ∧ ∃ function ∈ plainPushes, ∃ value,
        (w.resultPush r).text = function ++ "(L, " ++ value ++ ");")
      ∨ ∃ className byPointer, r.conversion = .object className byPointer
        ∧ (w.resultPush r).text = objectPush (r.expression className byPointer)
          (registryTag w.library className) (! byPointer || w.callee.allocates) := by
  rw [Wrapper.resultPush, Wrapper.resultText]
  cases r.conversion with
  | object className byPointer =>
      refine .inr ⟨className, byPointer, rfl, ?_⟩
      cases byPointer with
      | true =>
          rw [Result.expression, if_pos rfl]
          cases r.isConst <;> rfl
      | false => exact text_copy className _
  | boolean => exact .inl ⟨rfl, "lua_pushboolean", by decide, resultVar, rfl⟩
  | integer type => exact .inl ⟨rfl, "lua_pushinteger", by decide, resultVar, rfl⟩
  | number type => exact .inl ⟨rfl, "lua_pushnumber", by decide, resultVar, rfl⟩
  | cString => exact .inl ⟨rfl, "lua_pushstring", by decide, resultVar, rfl⟩
  | stdString => exact .inl ⟨rfl, "lua_pushstring", by decide, resultVar ++ ".c_str()", rfl⟩

/-! ### Owned objects -/

/-- A plain value is pushed for a return value of no class, and for a constructor only if its class
has the name of a character. -/
structure PushesValue (f : FunctionDecl) (a : Argument) (push : String) : Prop where
  declared : classTypeOf? a = none
  written : ∃ function ∈ plainPushes, ∃ value, push = function ++ "(L, " ++ value ++ ");"
  constructed : f.isConstructor = true → a.type.isString = true

/-- An object is pushed for a return value of a class. Lua owns it exactly when it was made on the
way: by a constructor, whose object is pushed as it is, or as a copy of a value or of a reference. A
pointer to a constant object sheds its qualifier. -/
structure PushesObject (f : FunctionDecl) (a : Argument) (callee : Callee) (e : ObjectExpression)
    (tag : String) (owned : Bool) : Prop where
  declared : classTypeOf? a = some a.type.base
  tagged : tag = registryTag f.library a.type.base
  owned_iff_origin : owned = true ↔ e.origin callee = .made
  owned_iff_type : owned = true ↔ f.isConstructor = true ∨ a.type.stars = 0
  stars : a.type.stars = 1 ∨ (a.type.stars = 0 ∧ f.isConstructor = false)
  expression : e = if a.type.stars = 1 then
      if a.type.isConst then .unqualified a.type.base else .result
    else .copied a.type.base

lemma allocates_ofFunction (f : FunctionDecl) (hasSelf : Bool) :
    (Callee.ofFunction f hasSelf).allocates = f.isConstructor := by
  rw [Callee.ofFunction]
  split_ifs with hconstructor <;> simp [Callee.allocates, hconstructor]

lemma origin_eq_made_iff (callee : Callee) : callee.origin = .made ↔ callee.allocates = true := by
  cases callee <;> simp [Callee.origin, Callee.allocates]

/-- What the wrapper of a function pushes for the declared return value. -/
lemma pushes_ofSignature {f : FunctionDecl} {s : Signature} (h : s.Describes f) {a : Argument}
    {r : Result} (ha : f.result? = some a) (hc : Conversion.ofType? a.type = some r.conversion)
    (hconst : r.isConst = a.type.isConst) :
    PushesValue f a ((Wrapper.ofSignature f s).resultPush r).text
      ∨ ∃ e tag owned, ((Wrapper.ofSignature f s).resultPush r).text = objectPush e tag owned
        ∧ PushesObject f a (Wrapper.ofSignature f s).callee e tag owned := by
  have hlibrary : (Wrapper.ofSignature f s).library = f.library := h.library
  have hallocates : (Wrapper.ofSignature f s).callee.allocates = f.isConstructor :=
    allocates_ofFunction f s.hasSelf
  have hconstructed := fun hf => ofType?_result_of_isConstructor (f := f) hf ha hc
  rcases resultPush_text (Wrapper.ofSignature f s) r with ⟨hnone, hwritten⟩ | ⟨className, byPointer,
    hobject, htext⟩
  · refine .inl ⟨?_, hwritten, fun hf => ?_⟩
    · rw [classTypeOf?, hc]
      exact hnone
    · rcases hconstructed hf with ⟨hstring, -⟩ | hpointer
      · exact hstring
      · rw [hpointer] at hnone
        cases hnone
  · rw [hobject] at hc hconstructed
    obtain ⟨hbase, hstars⟩ := ofType?_object hc
    rw [hbase] at hc hconstructed htext
    refine .inr ⟨_, _, _, htext, ?_⟩
    have hdeclared : classTypeOf? a = some a.type.base := by
      rw [classTypeOf?, hc]
      rfl
    rw [hlibrary, hallocates]
    cases byPointer with
    | true =>
        rw [if_pos rfl] at hstars
        refine ⟨hdeclared, rfl, ?_, by simp [hstars], .inl hstars, ?_⟩
        · have horigin : (r.expression a.type.base true).origin (Wrapper.ofSignature f s).callee
              = (Wrapper.ofSignature f s).callee.origin := by
            rw [Result.expression, if_pos rfl]
            split <;> rfl
          rw [horigin, origin_eq_made_iff, hallocates]
          simp
        · rw [Result.expression, if_pos rfl, if_pos hstars, hconst]
    | false =>
        rw [if_neg Bool.false_ne_true] at hstars
        have hmember : f.isConstructor = false := by
          rw [Bool.eq_false_iff]
          intro hf
          rcases hconstructed hf with ⟨-, hother⟩ | hother <;> cases hother
        refine ⟨hdeclared, rfl, by simp [Result.expression, ObjectExpression.origin],
          by simp [hstars], .inr ⟨hstars, hmember⟩, ?_⟩
        rw [Result.expression, if_neg Bool.false_ne_true, if_neg (by omega)]

/-- A step that reads the object of the call, a parameter that is passed, or the height of the
stack. -/
inductive ReadStep (w : Wrapper) (passed : List Parameter) : Step → Prop
  | self {step : Step} (h : step ∈ w.selfSteps) : ReadStep w passed step
  | parameter {p : Parameter} {step : Step} (hp : p ∈ passed) (h : step ∈ p.fetch w.library) :
    ReadStep w passed step
  | height : ReadStep w passed topStep

/-- In front of the call a wrapper only reads. -/
lemma path_ofSignature {f : FunctionDecl} {s : Signature} (h : s.Describes f) (top : Nat) :
    ∃ reads, (Wrapper.ofSignature f s).path top
        = reads ++ (Wrapper.ofSignature f s).callSteps (s.parameters.take (f.passedCount top))
      ∧ ∀ step ∈ reads,
        ReadStep (Wrapper.ofSignature f s) (s.parameters.take (f.passedCount top)) step := by
  have hpath := (Wrapper.ofSignature f s).path_eq (s := s) rfl rfl h.required_le top
  rw [reached_eq_passedCount h, Wrapper.branchSteps_branchFor, ← List.append_assoc] at hpath
  refine ⟨_, hpath, fun step hstep => ?_⟩
  have hmandatory : ∀ p ∈ s.mandatory, p ∈ s.parameters.take (f.passedCount top) := by
    intro p hp
    have hle : s.required ≤ f.passedCount top := h.required ▸ required_le_passedCount f top
    exact List.take_subset_take_left _ hle hp
  simp only [List.mem_append, List.mem_flatMap] at hstep
  rcases hstep with ((hstep | ⟨p, hp, hstep⟩) | hstep) | ⟨p, hp, hstep⟩
  · exact .self hstep
  · exact .parameter (hmandatory p hp) hstep
  · split at hstep
    · cases hstep
    · rw [List.mem_singleton.mp hstep]
      exact .height
  · exact .parameter (List.mem_of_mem_drop hp) hstep

/-- **Ownership.** For every height of the stack, control reads what the call needs, makes the call,
and pushes at most one value behind it. An object is pushed as owned exactly when it was made on
this way, which is so for the object of a constructor and for a copy of a value or of a reference; a
pointer that C++ gave is pushed without being owned, whether it is constant or not, and no other
push hands over an object. -/
theorem owned_iff_made (f : FunctionDecl) (hf : isConvertible f = true) (top : Nat) :
    ∃ (w : Wrapper) (passed : List Parameter) (reads ending : List Step),
      wrappers.render f = .ok w.text
        ∧ w.callee = Callee.ofFunction f (Signature.needsSelf f)
        ∧ passed.map Parameter.name = (f.formals.take (f.passedCount top)).map Argument.name
        ∧ w.path top = reads ++ ending ∧ (∀ step ∈ reads, ReadStep w passed step)
        ∧ ((f.result? = none ∧ ending = [.line (w.callText passed ++ ";"), .line "return 0;"])
          ∨ ∃ a push, f.result? = some a
            ∧ ending =
              [.line (declaration a.type.localText resultVar ++ " = " ++ w.callText passed ++ ";"),
               .line push, .line "return 1;"]
            ∧ (PushesValue f a push ∨ ∃ e tag owned, push = objectPush e tag owned
              ∧ PushesObject f a w.callee e tag owned)) := by
  obtain ⟨s, hs⟩ := exists_signature hf
  have hd : s.Describes f := Signature.describes_of_ofFunction hs
  have hrender : wrappers.render f = .ok (Wrapper.ofSignature f s).text :=
    map_eq_ok_iff.mpr ⟨_, map_eq_ok_iff.mpr ⟨s, signatureOf_eq_ok_iff.mpr hs, rfl⟩, rfl⟩
  obtain ⟨reads, hpath, hreads⟩ := path_ofSignature hd top
  refine ⟨.ofSignature f s, s.parameters.take (f.passedCount top), reads, _, hrender,
    by rw [← hd.hasSelf]; rfl, hd.map_name_take _, hpath, hreads, ?_⟩
  rcases callSteps_ofSignature hd (s.parameters.take (f.passedCount top))
    with ⟨hnone, hending⟩ | ⟨r, -, hr, hending⟩
  · exact .inl ⟨hnone, hending⟩
  · obtain ⟨a, ha, hc, hconst, hlocal⟩ := resultOf_eq_ok_some_iff.mp hr
    rw [hlocal] at hending
    exact .inr ⟨a, _, ha, hending, pushes_ofSignature hd ha hc hconst⟩

/-- A function that lends an item. -/
def lentItem : FunctionDecl where
  owner := some (.ofNamespace "shop")
  name := "item"
  scope := "shop"
  overload := none
  node := { name := "item", result := "const Item *" : Sketch }.declare

/-- The item is pushed without its qualifier and stays with C++. -/
theorem owned_iff_made_lent : isConvertible lentItem = true ∧ ∃ (w : Wrapper) (reads : List Step),
    wrappers.render lentItem = .ok w.text
      ∧ w.path 0 = reads ++ [.line "const Item *retval__ = item();",
        .line "dub_pushudata(L, const_cast<Item *>(retval__), \"shop.Item\", false);",
        .line "return 1;"] := by
  have hconv : isConvertible lentItem = true := by decide +kernel
  obtain ⟨w, passed, reads, ending, hrender, hcallee, hnames, hpath, -, hending⟩ :=
    owned_iff_made lentItem hconv 0
  have hresult : lentItem.result? = some (.result "item" "const Item *") := by decide +kernel
  have hformals : (lentItem.formals.take (lentItem.passedCount 0)).map Argument.name = [] := by
    decide +kernel
  have hclass : classTypeOf? (.result "item" "const Item *") = some "Item" := by decide +kernel
  rw [hformals, List.map_eq_nil_iff] at hnames
  rw [hnames] at hending
  have hcall : w.callText [] = "item()" := by
    rw [Wrapper.callText, hcallee]
    decide +kernel
  rcases hending with ⟨hnone, -⟩ | ⟨a, push, ha, hending, hpush⟩
  · rw [hresult] at hnone
    cases hnone
  · rw [hresult, Option.some_inj] at ha
    subst ha
    refine ⟨hconv, w, reads, hrender, ?_⟩
    rcases hpush with hvalue | ⟨e, tag, owned, rfl, hobject⟩
    · rw [hvalue.declared] at hclass
      cases hclass
    · have howned : owned = false := by
        rw [Bool.eq_false_iff, ne_eq, hobject.owned_iff_type]
        decide +kernel
      have hexpression : e = .unqualified "Item" := hobject.expression.trans (by decide +kernel)
      have htag : tag = "shop.Item" := hobject.tagged.trans (by decide +kernel)
      have hdeclaration : declaration
          (Argument.result "item" "const Item *").type.localText resultVar ++ " = " ++ "item()" ++ ";"
          = "const Item *retval__ = item();" := by decide +kernel
      have hwritten : objectPush (.unqualified "Item") "shop.Item" false
          = "dub_pushudata(L, const_cast<Item *>(retval__), \"shop.Item\", false);" := by
        decide +kernel
      rw [hpath, hending, hcall, howned, hexpression, htag, hdeclaration, hwritten]

end Lua

end LuaBinder
