import LuaBinder.Lua.Chooser
import LuaBinder.Proofs.Lua.Scalars
import LuaBinder.Proofs.Lua.Signature

/-!
Types that are spelled with other qualifiers and in another layout.

The words of a type that are no qualifiers and the number of its stars decide everything that the
bindings do with a parameter of this type.

* `DeclaredType.Respells`: the same words but for qualifiers, and as many stars;
  `DeclaredType.Respells.base` and the lemmas behind it say what stays the same.
* `Argument.Respells`, `ofArgument_eq_ok_iff`: the parameter that an argument makes.
* `FunctionDecl.Respells`, `ofFunction_eq_ok_iff`: the signature of a function.
* `spelling_unseen`: all of these together.
-/

namespace LuaBinder

open Text

/-! ### Types -/

namespace DeclaredType

/-- Two texts of types that have as many stars, and the same words once the qualifiers are dropped
wherever they stand. -/
structure Respells (raw raw' : String) : Prop where
  words : bareWords raw' = bareWords raw
  stars : raw'.toList.count '*' = raw.toList.count '*'

namespace Respells

variable {raw raw' : String}

lemma base (h : Respells raw raw') : (ofText raw').base = (ofText raw).base := by
  rw [base_ofText, base_ofText, h.words]

lemma stars_eq (h : Respells raw raw') : (ofText raw').stars = (ofText raw).stars := by
  rw [stars_ofText, stars_ofText, h.stars]

lemma isNative (h : Respells raw raw') : (ofText raw').isNative = (ofText raw).isNative := by
  rw [DeclaredType.isNative, DeclaredType.isNative, h.base]

lemma isString (h : Respells raw raw') : (ofText raw').isString = (ofText raw).isString := by
  rw [DeclaredType.isString, DeclaredType.isString, h.base, h.stars_eq]

end Respells

end DeclaredType

/-! ### Arguments -/

namespace Argument

/-- The argument with another text of its type. -/
def retyped (a : Argument) (raw : String) : Argument := { a with type := DeclaredType.ofText raw }

/-- Two arguments that differ in the spelling of their types alone. -/
structure Respells (a a' : Argument) : Prop where
  name : a'.name = a.name
  base : a'.type.base = a.type.base
  stars : a'.type.stars = a.type.stars
  arraySuffix : a'.arraySuffix = a.arraySuffix
  hasDefault : a'.hasDefault = a.hasDefault

/-- Where one of them is an ellipsis the other one is, too. -/
structure RespellsAligned (a a' : Argument) : Prop extends Respells a a' where
  isVariadic : a'.isVariadic = a.isVariadic

lemma respells_retyped {raw raw' : String} (h : DeclaredType.Respells raw raw') (a : Argument) :
    (a.retyped raw).Respells (a.retyped raw') :=
  ⟨rfl, h.base, h.stars_eq, rfl, rfl⟩

end Argument

/-- Two parameters of declarations that differ in the spelling of their types alone. An ellipsis is
no type, and has no other spelling. -/
structure Element.RespellsType (p p' : Element) : Prop where
  declname : p'.childText "declname" = p.childText "declname"
  defval : p'.childText "defval" = p.childText "defval"
  array : p'.childText "array" = p.childText "array"
  type : DeclaredType.Respells (p.childText "type") (p'.childText "type")
  ellipsis : collapse (p'.childText "type") = "..." ↔ collapse (p.childText "type") = "..."

lemma Element.RespellsType.ofParam {p p' : Element} (h : p.RespellsType p') (function : String)
    (position : Nat) :
    (Argument.ofParam function p position).RespellsAligned
      (Argument.ofParam function p' position) where
  name := by
    simp only [Argument.name, Argument.ofParam, h.declname]
  base := h.type.base
  stars := h.type.stars_eq
  arraySuffix := by
    simp only [Argument.ofParam, h.array]
  hasDefault := by
    simp only [Argument.hasDefault, Argument.ofParam, h.defval]
  isVariadic := by
    have htext : (collapse (p'.childText "type") == "...")
        = (collapse (p.childText "type") == "...") := by
      rw [Bool.eq_iff_iff, beq_iff_eq, beq_iff_eq]
      exact h.ellipsis
    simp only [Argument.isVariadic, Argument.ofParam, DeclaredType.ofText, htext]

/-! ### Functions -/

namespace FunctionDecl

/-- Two functions that differ in the spelling of the types of their parameters, and possibly in
parts of their declarations that say nothing about calls. -/
structure Respells (f f' : FunctionDecl) : Prop where
  owner : f'.owner = f.owner
  name : f'.name = f.name
  isStatic : f'.isStatic = f.isStatic
  result : f'.result? = f.result?
  params : List.Forall₂ Element.RespellsType (f.node.children "param") (f'.node.children "param")

namespace Respells

variable {f f' : FunctionDecl}

lemma arguments (h : f.Respells f') :
    List.Forall₂ Argument.RespellsAligned f.arguments f'.arguments := by
  have hparams := h.params
  rw [FunctionDecl.arguments, FunctionDecl.arguments, h.name, List.forall₂_map_left_iff,
    List.forall₂_map_right_iff]
  generalize f.node.children "param" = params, f'.node.children "param" = params' at hparams ⊢
  -- the positions may start from any number
  generalize 0 = start
  induction hparams generalizing start with
  | nil => exact .nil
  | cons hp _ ih => exact .cons (hp.ofParam f.name (start + 1)) (ih (start + 1))

lemma required (h : f.Respells f') : f'.required = f.required := by
  have harguments := h.arguments
  rw [FunctionDecl.required, FunctionDecl.required]
  generalize f.arguments = arguments, f'.arguments = arguments' at harguments ⊢
  induction harguments with
  | nil => rfl
  | cons ha _ ih =>
      rw [List.takeWhile_cons, List.takeWhile_cons, ha.hasDefault, ha.isVariadic]
      split
      · rw [List.length_cons, List.length_cons, ih]
      · rfl

lemma isVariadic (h : f.Respells f') : f'.isVariadic = f.isVariadic := by
  have hlast : List.Forall₂ Argument.RespellsAligned f.arguments.reverse f'.arguments.reverse :=
    List.rel_reverse h.arguments
  rw [FunctionDecl.isVariadic, FunctionDecl.isVariadic, ← List.head?_reverse, ← List.head?_reverse]
  generalize f.arguments.reverse = last, f'.arguments.reverse = last' at hlast ⊢
  cases hlast with
  | nil => rfl
  | cons ha _ => exact ha.isVariadic

/-- The arguments that take a slot. -/
lemma formals (h : f.Respells f') : List.Forall₂ Argument.Respells f.formals f'.formals := by
  have haligned : List.Forall₂ Argument.RespellsAligned f.formals f'.formals := by
    refine List.rel_filter (fun a a' ha => ?_) h.arguments
    dsimp only
    rw [ha.isVariadic]
  exact haligned.imp fun _ _ ha => ha.toRespells

end Respells

end FunctionDecl

namespace Lua

open DeclaredType

/-! ### Parameters and signatures -/

/-- Arguments whose types are spelled differently make the same parameters. -/
lemma ofArgument_eq_ok_iff {a a' : Argument} (h : a.Respells a') {slot : Nat} {p : Parameter} :
    Parameter.ofArgument a' slot = .ok p ↔ Parameter.ofArgument a slot = .ok p := by
  have hshape : Parameter.shapeOf a' = .ok p.shape ↔ Parameter.shapeOf a = .ok p.shape := by
    rw [shapeOf_eq_ok_iff, shapeOf_eq_ok_iff, Conversion.ofType?_congr h.base h.stars,
      h.arraySuffix]
  have hreads : ReadsFrom (a', slot) p ↔ ReadsFrom (a, slot) p := by
    rw [readsFrom_iff, readsFrom_iff, hshape, h.name, h.base]
  exact hreads

lemma ofArguments_eq_ok_iff {as as' : List Argument} (h : List.Forall₂ Argument.Respells as as')
    {slot : Nat} {ps : List Parameter} :
    Parameter.ofArguments slot as' = .ok ps ↔ Parameter.ofArguments slot as = .ok ps := by
  induction h generalizing slot ps with
  | nil => rfl
  | cons ha _ ih =>
      simp only [Parameter.ofArguments, bind_eq_ok_iff, ofArgument_eq_ok_iff ha, ih]

/-- Functions whose parameters have types that are spelled differently have the same signatures. -/
lemma ofFunction_eq_ok_iff {f f' : FunctionDecl} (h : f.Respells f') {s : Signature} :
    Signature.ofFunction f' = .ok s ↔ Signature.ofFunction f = .ok s := by
  have hself : Signature.needsSelf f' = Signature.needsSelf f := by
    simp only [Signature.needsSelf, FunctionDecl.isMember, FunctionDecl.isConstructor, h.owner,
      h.name, h.isStatic]
  have hresult : Signature.resultOf f' = Signature.resultOf f := by
    rw [Signature.resultOf, Signature.resultOf, h.result]
  have hlibrary : f'.library = f.library := by
    rw [FunctionDecl.library, FunctionDecl.library, h.owner]
  have hformals : ∀ slot ps,
      Parameter.ofArguments slot (f'.arguments.filter (! ·.isVariadic)) = .ok ps
        ↔ Parameter.ofArguments slot (f.arguments.filter (! ·.isVariadic)) = .ok ps :=
    fun slot ps => ofArguments_eq_ok_iff h.formals
  simp only [Signature.ofFunction, bind_eq_ok_iff, hformals, hself, hresult, hlibrary, h.required,
    h.isVariadic]

/-- What a chooser asks about an argument at a slot, and the statements that read it, unless it
makes no parameter. -/
def parameterCode? (a : Argument) (slot : Nat) (library : String) :
    Option (SlotTest × List Code.Step) :=
  (Parameter.ofArgument a slot).toOption.map fun p => (p.test library, p.fetch library)

lemma parameterCode?_eq {a a' : Argument} (h : a.Respells a') (slot : Nat) (library : String) :
    parameterCode? a' slot library = parameterCode? a slot library := by
  have hparameter : (Parameter.ofArgument a' slot).toOption
      = (Parameter.ofArgument a slot).toOption := by
    cases hp : Parameter.ofArgument a slot with
    | ok p => rw [(ofArgument_eq_ok_iff h).mpr hp]
    | error e =>
        cases hp' : Parameter.ofArgument a' slot with
        | error e' => rfl
        | ok p =>
            rw [(ofArgument_eq_ok_iff h).mp hp'] at hp
            cases hp
  rw [parameterCode?, parameterCode?, hparameter]

/-! ### Spellings -/

/-- **Spellings of types.** Take two texts with as many stars, whose words are the same once the
qualifiers are dropped wherever they stand. They have the same base type, are both scalars or not,
are both strings or not, and are converted in the same way. So a chooser asks the same about an
argument of either type, and a wrapper reads it by the same statements, whatever else is declared
with it; and functions whose parameters differ in such spellings have the same signatures. -/
theorem spelling_unseen {raw raw' : String} (h : Respells raw raw') :
    (ofText raw').base = (ofText raw).base
      ∧ (ofText raw').isNative = (ofText raw).isNative
      ∧ (ofText raw').isString = (ofText raw).isString
      ∧ Conversion.ofType? (ofText raw') = Conversion.ofType? (ofText raw)
      ∧ (∀ (a : Argument) (slot : Nat) (library : String),
        parameterCode? (a.retyped raw') slot library = parameterCode? (a.retyped raw) slot library)
      ∧ ∀ f f' : FunctionDecl, f.Respells f' → ∀ s,
        Signature.ofFunction f' = .ok s ↔ Signature.ofFunction f = .ok s :=
  ⟨h.base, h.isNative, h.isString, Conversion.ofType?_congr h.base h.stars_eq,
    fun a => parameterCode?_eq (Argument.respells_retyped h a),
    fun _ _ hf _ => ofFunction_eq_ok_iff hf⟩

/-- A method with a text of the given type. -/
def labelMethod (type : String) : FunctionDecl where
  owner := some (.ofClass "Image" (some "gfx"))
  name := "label"
  scope := "Image"
  overload := none
  node := {
    tag := "memberdef"
    content := [Element.toMarkup {
      tag := "param"
      content := [(Element.ofText "type" type).toMarkup,
        (Element.ofText "declname" "text").toMarkup] }] }

/-- A string with its qualifiers in front, and one with qualifiers around its star. -/
theorem spelling_unseen_label :
    Respells "const char *" "char*volatile\tconst &"
      ∧ (labelMethod "const char *").Respells (labelMethod "char*volatile\tconst &")
      ∧ Conversion.ofType? (ofText "char*volatile\tconst &") = some .cString
      ∧ ∃ s, Signature.ofFunction (labelMethod "const char *") = .ok s
        ∧ Signature.ofFunction (labelMethod "char*volatile\tconst &") = .ok s := by
  have hraw : Respells "const char *" "char*volatile\tconst &" :=
    ⟨by decide +kernel, by decide +kernel⟩
  have hparam : ∀ type : String, (labelMethod type).node.children "param"
      = [⟨"param", [], [(Element.ofText "type" type).toMarkup,
        (Element.ofText "declname" "text").toMarkup]⟩] := fun type => rfl
  have hmethod : (labelMethod "const char *").Respells (labelMethod "char*volatile\tconst &") := by
    refine ⟨rfl, rfl, rfl, by decide +kernel, ?_⟩
    rw [hparam, hparam]
    exact .cons ⟨rfl, rfl, rfl, hraw, by decide +kernel⟩ .nil
  obtain ⟨-, -, -, htype, -, hfunctions⟩ := spelling_unseen hraw
  obtain ⟨s, hs⟩ := exists_signature (f := labelMethod "const char *") (by decide +kernel)
  exact ⟨hraw, hmethod, htype.trans (by decide +kernel), s, hs, (hfunctions _ _ hmethod s).mpr hs⟩

end Lua

end LuaBinder
