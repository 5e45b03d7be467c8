import LuaBinder.Proofs.Decl.InlineMarkup
import LuaBinder.Proofs.Lua.Preview

/-!
The bindings of declarations with markup inside their texts.

* `signatureOf_plain`, `exclusion?_plain`: a function is converted, or left out, as with a plain
  declaration.
* `wrapperText_plain`, `chooserOf?_plain`, `slotParts_plain`: so are the parts of a file.
* `ofKept_plain`, `keptFiles_plain`: the files of plain declarations are those of the declarations.
* `FunctionView`, `viewOf`: what the bindings show of a function.
* `inline_markup_unseen`: namespaces whose declarations differ in the markup inside their texts show
  the same and have the same files.
-/

namespace LuaBinder.Lua

open Text

/-! ### Functions -/

@[simp] lemma needsSelf_plain (f : FunctionDecl) :
    Signature.needsSelf f.plain = Signature.needsSelf f := rfl

lemma ofFunction_plain (f : FunctionDecl) :
    Signature.ofFunction f.plain = Signature.ofFunction f := by
  have hresult : Signature.resultOf f.plain = Signature.resultOf f := by
    rw [Signature.resultOf, Signature.resultOf, FunctionDecl.plain_result?]
  have hrequired : f.plain.required = f.required := by
    rw [FunctionDecl.required, FunctionDecl.required, FunctionDecl.plain_arguments]
  have hvariadic : f.plain.isVariadic = f.isVariadic := by
    rw [FunctionDecl.isVariadic, FunctionDecl.isVariadic, FunctionDecl.plain_arguments]
  simp only [Signature.ofFunction, needsSelf_plain, FunctionDecl.plain_arguments, hresult, hrequired,
    hvariadic, FunctionDecl.plain_library]

@[simp] lemma signatureOf_plain (f : FunctionDecl) : signatureOf f.plain = signatureOf f := by
  simp only [signatureOf, ofFunction_plain, FunctionDecl.plain_qualifiedName,
    FunctionDecl.plain_source?]

@[simp] lemma identifier_plain (f : FunctionDecl) (index : Option Nat) :
    identifier f.plain index = identifier f index := rfl

/-- The same functions are left out, for the same reasons. -/
@[simp] lemma exclusion?_plain (o : Options) (f : FunctionDecl) :
    exclusion? o f.plain = exclusion? o f := by
  have hconvertible : isConvertible f.plain = isConvertible f := by
    rw [isConvertible, isConvertible, ofFunction_plain]
  have hresult : f.plain.resultText? = f.resultText? := by
    rw [FunctionDecl.resultText?, FunctionDecl.resultText?, FunctionDecl.plain_result?]
  have hpointer : f.plain.returnsNativePointer = f.returnsNativePointer := by
    rw [FunctionDecl.returnsNativePointer, FunctionDecl.returnsNativePointer,
      FunctionDecl.plain_result?]
  have hnames : o.names f.plain = o.names f := rfl
  simp only [exclusion?, FunctionDecl.plain_name, FunctionDecl.plain_signature, hconvertible,
    hresult, hpointer, hnames]

@[simp] lemma isExcluded_plain (o : Options) (f : FunctionDecl) :
    isExcluded o f.plain = isExcluded o f := by
  rw [isExcluded, isExcluded, exclusion?_plain]

/-! ### Parts of a file -/

@[simp] lemma wrapperText_plain (f : FunctionDecl) : wrapperText f.plain = wrapperText f := by
  have hcomment : Wrapper.commentOf f.plain = Wrapper.commentOf f := by
    rw [Wrapper.commentOf, Wrapper.commentOf, FunctionDecl.plain_signature,
      FunctionDecl.plain_source?]
  have hwrapper : Wrapper.ofSignature f.plain = Wrapper.ofSignature f := by
    funext s
    rw [Wrapper.ofSignature, hcomment]
    rfl
  rw [wrapperText, wrapperText, Wrapper.ofFunction, Wrapper.ofFunction, signatureOf_plain, hwrapper]

lemma signatures_plain (fs : List FunctionDecl) :
    Chooser.signatures (fs.map FunctionDecl.plain)
      = (Chooser.signatures fs).map (List.map (Prod.map id FunctionDecl.plain)) := by
  induction fs with
  | nil => rfl
  | cons f fs ih =>
      simp only [Chooser.signatures, List.map_cons, List.mapM_cons, signatureOf_plain] at ih ⊢
      rw [ih]
      cases signatureOf f with
      | error e => rfl
      | ok s => cases fs.mapM fun f => (signatureOf f).map (·, f) <;> rfl

/-- The signatures decide in which order overloads are tried. -/
lemma alternativesOf_plain (overloads : List (Signature × FunctionDecl)) :
    Chooser.alternativesOf (overloads.map (Prod.map id FunctionDecl.plain))
      = Chooser.alternativesOf overloads := by
  have hsort : (overloads.map (Prod.map id FunctionDecl.plain)).mergeSort
        (fun a b => triedBefore a.1 b.1)
      = (overloads.mergeSort fun a b => triedBefore a.1 b.1).map
        (Prod.map id FunctionDecl.plain) := by
    refine (List.map_mergeSort ?_).symm
    exact fun _ _ _ _ => rfl
  rw [Chooser.alternativesOf, Chooser.alternativesOf, hsort, List.map_map]
  rfl

lemma ofOverloads_plain (fs : List FunctionDecl) :
    Chooser.ofOverloads (fs.map FunctionDecl.plain) = Chooser.ofOverloads fs := by
  cases fs with
  | nil => rfl
  | cons first rest =>
      have hsignatures := signatures_plain (first :: rest)
      rw [List.map_cons] at hsignatures
      rw [List.map_cons, Chooser.ofOverloads, Chooser.ofOverloads, hsignatures]
      cases Chooser.signatures (first :: rest) with
      | error e => rfl
      | ok overloads =>
          simp only [Except.map, alternativesOf_plain, FunctionDecl.plain_name, identifier_plain,
            FunctionDecl.plain_qualifiedName]

lemma overloadParts_plain (fs : List FunctionDecl) :
    overloadParts (fs.map FunctionDecl.plain) = overloadParts fs := by
  have hwrappers : (fs.map FunctionDecl.plain).map (Fragment.function <| wrapperText ·)
      = fs.map (.function <| wrapperText ·) := by
    rw [List.map_map]
    exact List.map_congr_left fun f _ => congrArg Fragment.function (wrapperText_plain f)
  rw [overloadParts, overloadParts, hwrappers, chooserOf?, chooserOf?, ofOverloads_plain]

lemma slotParts_plain (m : Member FunctionDecl) :
    slotParts (m.map FunctionDecl.plain) = slotParts m := by
  cases m with
  | leaf f => rw [Member.map, slotParts, slotParts, wrapperText_plain]
  | group members =>
      rw [Member.map, slotParts, slotParts, Member.leavesAll_mapAll, overloadParts_plain]

lemma slotRow_plain (m : Member FunctionDecl) :
    slotRow (m.map FunctionDecl.plain) = slotRow m := by
  rw [slotRow, slotRow, Member.first?_map, Member.isGroup_map]
  cases m.first? with
  | none => rfl
  | some f => rfl

lemma constructorParts_plain (fs : List FunctionDecl) :
    constructorParts (fs.map FunctionDecl.plain) = constructorParts fs := by
  match fs with
  | [] => rfl
  | [single] =>
      have hparts := overloadParts_plain [single]
      rw [List.map_singleton] at hparts ⊢
      rw [constructorParts, constructorParts, hparts, wrapperText_plain, FunctionDecl.plain_overload]
  | first :: second :: rest => exact overloadParts_plain (first :: second :: rest)

lemma creatorRows_plain (c : ClassDecl) (fs : List FunctionDecl) :
    creatorRows c.plain (fs.map FunctionDecl.plain) = creatorRows c fs := by
  cases fs <;> rfl

/-! ### Files -/

lemma keptSlots_plain (o : Options) (members : List (Member FunctionDecl)) :
    keptSlots o (Member.mapAll FunctionDecl.plain members)
      = Member.mapAll FunctionDecl.plain (keptSlots o members) := by
  simp only [keptSlots, keptMembers, filterMembers_getD]
  exact Member.filterAll_mapAll (isExcluded_plain o) members

lemma keptConstructors_plain (o : Options) (c : ClassDecl) :
    keptConstructors o c.plain = (keptConstructors o c).map FunctionDecl.plain := by
  have hkept : ((! isExcluded o ·) ∘ FunctionDecl.plain) = (! isExcluded o ·) :=
    funext fun f => congrArg (! ·) (isExcluded_plain o f)
  rw [keptConstructors, keptConstructors, ClassDecl.plain, List.filter_map, hkept]

lemma flatMap_mapAll_plain {β : Type} {part : Member FunctionDecl → List β}
    (h : ∀ m, part (m.map FunctionDecl.plain) = part m) (members : List (Member FunctionDecl)) :
    (Member.mapAll FunctionDecl.plain members).flatMap part = members.flatMap part := by
  rw [Member.mapAll_eq_map, List.flatMap_map]
  exact List.flatMap_congr fun m _ => h m

lemma classFile_plain (o : Options) (c : ClassDecl) :
    ClassFile.ofKept o c.plain = ClassFile.ofKept o c := by
  have hheader : c.plain.header? = c.header? := by
    rw [ClassDecl.header?, ClassDecl.header?, ClassDecl.plain,
      Element.child?_plain (by decide) (by decide)]
  have hmembers : keptSlots o c.plain.members
      = Member.mapAll FunctionDecl.plain (keptSlots o c.members) := keptSlots_plain o c.members
  simp only [ClassFile.ofKept, keptConstructors_plain, constructorParts_plain, creatorRows_plain,
    hheader, hmembers, flatMap_mapAll_plain slotParts_plain, flatMap_mapAll_plain slotRow_plain]
  rfl

lemma includesOf_plain (o : Options) (fs : List FunctionDecl) :
    includesOf o (fs.map FunctionDecl.plain) = includesOf o fs := by
  rw [includesOf, includesOf, List.filterMap_map]
  refine congrArg distinct (List.filterMap_congr fun f _ => ?_)
  rw [Function.comp_apply, FunctionDecl.child?_location_plain]

lemma namespaceFile_plain (o : Options) (n : NamespaceDecl) :
    NamespaceFile.ofKept o n.plain = NamespaceFile.ofKept o n := by
  have hfunctions : keptSlots o n.plain.functions
      = Member.mapAll FunctionDecl.plain (keptSlots o n.functions) := keptSlots_plain o n.functions
  simp only [NamespaceFile.ofKept, hfunctions, Member.leavesAll_mapAll, includesOf_plain,
    flatMap_mapAll_plain slotParts_plain, flatMap_mapAll_plain slotRow_plain]
  rfl

/-- A namespace has the files of its plain declarations. -/
lemma keptFiles_plain (o : Options) (n : NamespaceDecl) : keptFiles o n.plain = keptFiles o n := by
  have hclasses : n.plain.classes.map (keptClassFile o) = n.classes.map (keptClassFile o) := by
    rw [NamespaceDecl.plain, List.map_map]
    refine List.map_congr_left fun c _ => ?_
    rw [Function.comp_apply, keptClassFile, keptClassFile, classFile_plain]
    rfl
  have hempty : (keptSlots o n.plain.functions).isEmpty = (keptSlots o n.functions).isEmpty := by
    rw [NamespaceDecl.plain, keptSlots_plain, Member.mapAll_eq_map, List.isEmpty_map]
  have hfree : keptNamespaceFile? o n.plain = keptNamespaceFile? o n := by
    rw [keptNamespaceFile?, keptNamespaceFile?, hempty, namespaceFile_plain]
    rfl
  rw [keptFiles, keptFiles, hclasses, hfree]

/-! ### What the bindings show -/

/-- What the bindings show of a function: its name and its number among functions of this name, its
arguments, its return value, and why it is left out. -/
structure FunctionView where
  qualifiedName : String
  overload : Option Nat
  arguments : List Argument
  result? : Option Argument
  reason? : Option Exclusion
  deriving DecidableEq

/-- What is shown of a function. -/
def viewOf (o : Options) (f : FunctionDecl) : FunctionView where
  qualifiedName := f.qualifiedName
  overload := f.overload
  arguments := f.arguments
  result? := f.result?
  reason? := exclusion? o f

lemma viewOf_comp_plain (o : Options) : viewOf o ∘ FunctionDecl.plain = viewOf o := by
  funext f
  simp only [Function.comp_apply, viewOf, FunctionDecl.plain_qualifiedName,
    FunctionDecl.plain_overload, FunctionDecl.plain_arguments, FunctionDecl.plain_result?,
    exclusion?_plain]

/-- What is shown of a class: its name, its constructors, and its members in their groups. -/
def classView (o : Options) (c : ClassDecl) :
    String × List FunctionView × List (Member FunctionView) :=
  (c.name, c.constructors.map (viewOf o), Member.mapAll (viewOf o) c.members)

lemma mapAll_viewOf_plain (o : Options) (members : List (Member FunctionDecl)) :
    Member.mapAll (viewOf o) (Member.mapAll FunctionDecl.plain members)
      = Member.mapAll (viewOf o) members := by
  rw [Member.mapAll_mapAll, viewOf_comp_plain]

lemma map_classView_plain (o : Options) (n : NamespaceDecl) :
    n.plain.classes.map (classView o) = n.classes.map (classView o) := by
  rw [NamespaceDecl.plain, List.map_map]
  refine List.map_congr_left fun c _ => ?_
  rw [Function.comp_apply, classView, classView, ClassDecl.plain, List.map_map, viewOf_comp_plain,
    mapAll_viewOf_plain]

/-- **Inline markup does not matter.** Take two namespaces that are made from declarations with
different markup inside the texts of their children and of their parameters, where the texts are the
same. Their classes and their free functions are grouped in the same way, the functions have the
same arguments and are left out for the same reasons, and the bindings are made with the same
files. -/
theorem inline_markup_unseen (o : Options) (name : String) {classes classes' : List ClassSource}
    {functions functions' : List Element}
    (hclasses : List.Forall₂ ClassSource.Restyles classes classes')
    (hfunctions : List.Forall₂ Element.Restyles functions functions') :
    let n := NamespaceDecl.ofSources name classes functions
    let n' := NamespaceDecl.ofSources name classes' functions'
    n'.classes.map (classView o) = n.classes.map (classView o)
      ∧ Member.mapAll (viewOf o) n'.functions = Member.mapAll (viewOf o) n.functions
      ∧ ∃ files, preview o (boundTo o n).1 (boundTo o n).2 n = .ok files
        ∧ preview o (boundTo o n').1 (boundTo o n').2 n' = .ok files := by
  intro n n'
  have hplain : n'.plain = n.plain := (plain_ofSources_eq hclasses hfunctions).symm
  refine ⟨?_, ?_, keptFiles o n, preview_boundTo o n, ?_⟩
  · rw [← map_classView_plain, hplain, map_classView_plain]
  · calc Member.mapAll (viewOf o) n'.functions
        = Member.mapAll (viewOf o) n'.plain.functions := (mapAll_viewOf_plain o _).symm
      _ = Member.mapAll (viewOf o) n.plain.functions := by rw [hplain]
      _ = Member.mapAll (viewOf o) n.functions := mapAll_viewOf_plain o _
  · rw [preview_boundTo, ← keptFiles_plain o n', hplain, keptFiles_plain]

/-- A method that compares an image with another one; the type of the other one is given by its
markup. -/
def comparingMethod (type : List Markup) : Element where
  tag := "memberdef"
  content := [
    (Element.ofText "type" "bool").toMarkup,
    (Element.ofText "name" "compare").toMarkup,
    Element.toMarkup {
      tag := "param"
      content := [Element.toMarkup ⟨"type", [], type⟩, (Element.ofText "declname" "other").toMarkup] }]

/-- A class with two overloads of this method, and such a free function. -/
def comparingSources (type : List Markup) : List ClassSource × List Element :=
  ([{ name := "Image"
      node := ⟨"compounddef", [], []⟩
      members := [comparingMethod type, comparingMethod [.text "int"]] }],
    [comparingMethod type])

/-- The type of a parameter as one run, and with a reference around the name of the class. -/
theorem inline_markup_unseen_reference :
    let linked : List Markup :=
      [.text "const ", .element "ref" [("refid", "classImage")] [.text "Image"], .text " &"]
    let old := comparingSources linked
    let new := comparingSources [.text "const Image &"]
    let n := NamespaceDecl.ofSources "gfx" old.1 old.2
    let n' := NamespaceDecl.ofSources "gfx" new.1 new.2
    List.Forall₂ ClassSource.Restyles old.1 new.1 ∧ List.Forall₂ Element.Restyles old.2 new.2
      ∧ (Member.leavesAll n.functions).map (·.arguments.map (·.type.text)) = [["const Image &"]]
      ∧ n'.classes.map (classView {}) = n.classes.map (classView {})
      ∧ ∃ files, preview {} (boundTo {} n).1 (boundTo {} n).2 n = .ok files
        ∧ preview {} (boundTo {} n').1 (boundTo {} n').2 n' = .ok files := by
  intro linked old new n n'
  have hmethod : (comparingMethod linked).Restyles (comparingMethod [.text "const Image &"]) := by
    refine ⟨rfl, rfl, .cons (.refl .refl _) (.cons (.refl .refl _) (.cons (.element ?_) .nil))⟩
    refine .param rfl ⟨rfl, rfl, .cons (.element (.text ?_ ?_)) (.cons (.refl .same _) .nil)⟩
    · decide
    · decide
  have hclasses : List.Forall₂ ClassSource.Restyles old.1 new.1 :=
    .cons ⟨rfl, .refl _, .cons hmethod (.cons (.refl _) .nil), rfl, rfl⟩ .nil
  have hfunctions : List.Forall₂ Element.Restyles old.2 new.2 := .cons hmethod .nil
  obtain ⟨hviews, -, hfiles⟩ := inline_markup_unseen {} "gfx" hclasses hfunctions
  exact ⟨hclasses, hfunctions, by decide +kernel, hviews, hfiles⟩

end LuaBinder.Lua
