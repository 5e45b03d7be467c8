import LuaBinder.Proofs.Lua.WrapperNames

/-!
Every function of a namespace is bound once or reported once.

The report walks the functions of a namespace as a flat list, while its files are made from nested
slots that were filtered; both come to the same division of the functions.

* `Settled`: a list of functions divided into reports and bindings, `settled_filter`.
* `WrapsEach`: the wrappers among the parts of a file are those of given functions, in order.
* `BindsClass`, `BindsFree`: what the files of a namespace hold.
* `bound_or_reported`: the functions of a namespace are divided, and its files hold one wrapper for
  each one that is bound.
-/

namespace LuaBinder.Lua

open Code Text

/-! ### Bound and reported functions -/

/-- The functions of a list divided one by one: where there is a reason to leave one out, it is
reported with the reason, and otherwise it is bound. Reports and bindings keep the order. -/
inductive Settled (o : Options) :
    List FunctionDecl → List (String × Exclusion) → List FunctionDecl → Prop where
  | nil : Settled o [] [] []
  | reported {f : FunctionDecl} {reason : Exclusion} {fs bound : List FunctionDecl}
      {reports : List (String × Exclusion)} (h : exclusion? o f = some reason)
      (rest : Settled o fs reports bound) :
    Settled o (f :: fs) ((f.qualifiedName, reason) :: reports) bound
  | bound {f : FunctionDecl} {fs bound : List FunctionDecl} {reports : List (String × Exclusion)}
      (h : exclusion? o f = none) (rest : Settled o fs reports bound) :
    Settled o (f :: fs) reports (f :: bound)

/-- The two filters divide every list. -/
lemma settled_filter (o : Options) (fs : List FunctionDecl) :
    Settled o fs (excludedOf o fs) (keptFunctions o fs) := by
  induction fs with
  | nil => exact .nil
  | cons f fs ih =>
      rw [excludedOf] at ih ⊢
      rw [keptFunctions] at ih ⊢
      cases h : exclusion? o f with
      | some reason =>
          rw [List.filterMap_cons_some (by rw [h]; rfl),
            List.filter_cons_of_neg (by simp [isExcluded, h])]
          exact .reported h ih
      | none =>
          rw [List.filterMap_cons_none (by rw [h]; rfl),
            List.filter_cons_of_pos (by simp [isExcluded, h])]
          exact .bound h ih

/-- What is bound of a namespace: what is kept of its classes in order, then of its free
functions. -/
lemma keptFunctions_allFunctions (o : Options) (n : NamespaceDecl) :
    keptFunctions o n.allFunctions
      = n.classes.flatMap (keptFunctions o ·.functions) ++ keptFunctions o n.freeFunctions := by
  rw [keptFunctions, NamespaceDecl.allFunctions, List.filter_append, List.filter_flatMap]
  rfl

/-! ### Wrappers among the parts of a file -/

/-- The text of a part that is a wrapper. -/
def Fragment.wrapper? : Fragment → Option String
  | .function text => some text
  | .chooser _ => none

/-- The wrappers among some parts are those of the functions of a list, one for each, in order. -/
def WrapsEach (fs : List FunctionDecl) (parts : List Fragment) : Prop :=
  List.Forall₂ (fun f text => wrappers.render f = .ok text) fs (parts.filterMap Fragment.wrapper?)

lemma WrapsEach.append {fs gs : List FunctionDecl} {parts more : List Fragment}
    (h : WrapsEach fs parts) (h' : WrapsEach gs more) : WrapsEach (fs ++ gs) (parts ++ more) := by
  rw [WrapsEach, List.filterMap_append]
  exact List.rel_append h h'

lemma piecewise_wrapsEach : Piecewise (isConvertible · = true) WrapsEach where
  nil := .nil
  append := WrapsEach.append
  wrapper hf := .cons (renderWith_eq everywhere_eq hf) .nil
  chooser _ := .nil

/-! ### Files -/

/-- The file of a class has one wrapper for each function of the class that is kept, constructors
first, and where no text is broken they are read off its lines. -/
structure BindsClass (o : Options) (c : ClassDecl) (file : GeneratedFile) : Prop where
  path : file.path = classPath c
  parts : ∃ source, ClassFile.ofClass o everywhere c = .ok source ∧ file.content = source.text
    ∧ WrapsEach (keptFunctions o c.functions) (source.constructors ++ source.members)
  names : UnbrokenClass o c →
    wrapperNames file.content = (keptFunctions o c.functions).map (identifier · none)

/-- The file of a namespace has one wrapper for each free function that is kept. -/
structure BindsFree (o : Options) (n : NamespaceDecl) (file : GeneratedFile) : Prop where
  path : file.path = sourcePath n.name
  parts : ∃ source, NamespaceFile.ofNamespace o everywhere n = .ok source
    ∧ file.content = source.text ∧ WrapsEach (keptFunctions o n.freeFunctions) source.functions
  names : UnbrokenFunctions o n →
    wrapperNames file.content = (keptFunctions o n.freeFunctions).map (identifier · none)

lemma bindsClass_keptClassFile (o : Options) (c : ClassDecl) :
    BindsClass o c (keptClassFile o c) := by
  have hconstructors := piecewise_wrapsEach.constructorParts
    (isConvertible_of_mem_keptConstructors o c)
  have hmembers := piecewise_wrapsEach.flatMap_slotParts
    (isConvertible_of_mem_keptSlots o c.members)
  refine ⟨rfl, ⟨.ofKept o c, ofClass_eq everywhere_eq o c, rfl, ?_⟩, wrapperNames_classFile⟩
  rw [keptFunctions_functions]
  exact hconstructors.append hmembers

lemma bindsFree_of_mem {o : Options} {n : NamespaceDecl} {file : GeneratedFile}
    (h : file ∈ keptNamespaceFile? o n) : BindsFree o n file := by
  have hfunctions := piecewise_wrapsEach.flatMap_slotParts
    (isConvertible_of_mem_keptSlots o n.functions)
  rw [leavesAll_keptSlots] at hfunctions
  rw [keptNamespaceFile?] at h
  split at h
  · cases h
  · cases h
    exact ⟨rfl, ⟨.ofKept o n, ofNamespace_eq everywhere_eq o n, rfl, hfunctions⟩,
      wrapperNames_namespaceFile⟩

/-- There is a file of free functions exactly when one of them is bound. -/
lemma isSome_keptNamespaceFile?_iff (o : Options) (n : NamespaceDecl) :
    (keptNamespaceFile? o n).isSome = true ↔ ∃ f ∈ n.freeFunctions, exclusion? o f = none := by
  have hempty : keptSlots o n.functions = [] ↔ ∀ f ∈ n.freeFunctions, isExcluded o f = true := by
    rw [keptSlots, keptMembers, filterMembers_getD]
    exact Member.filterAll_eq_nil_iff _ _
  calc (keptNamespaceFile? o n).isSome = true
      ↔ ¬ keptSlots o n.functions = [] := by rw [keptNamespaceFile?]; split <;> simp_all
    _ ↔ ∃ f ∈ n.freeFunctions, ¬ isExcluded o f = true := by rw [hempty]; push Not; rfl
    _ ↔ ∃ f ∈ n.freeFunctions, exclusion? o f = none :=
        exists_congr fun f => and_congr_right fun _ => by
          rw [isExcluded, Option.not_isSome_iff_eq_none]

/-- **Bound once or reported once.** Each function of a namespace, those of the classes first, is
reported with the reason to leave it out or it is bound, and both keep the order. The files of the
bindings hold exactly one wrapper for each function that is bound, in the file of its class or of
the namespace, and there is a file of free functions exactly when one of them is bound. -/
theorem bound_or_reported (o : Options) (n : NamespaceDecl) :
    Settled o n.allFunctions (ignored o n)
        (n.classes.flatMap (keptFunctions o ·.functions) ++ keptFunctions o n.freeFunctions)
      ∧ ∃ (classFiles : List GeneratedFile) (free? : Option GeneratedFile),
        preview o (boundTo o n).1 (boundTo o n).2 n
            = .ok (classFiles ++ free?.toList ++ [supportFile])
          ∧ List.Forall₂ (BindsClass o) n.classes classFiles
          ∧ (free?.isSome = true ↔ ∃ f ∈ n.freeFunctions, exclusion? o f = none)
          ∧ ∀ file ∈ free?, BindsFree o n file := by
  have hsettled := settled_filter o n.allFunctions
  rw [keptFunctions_allFunctions] at hsettled
  have hclasses : List.Forall₂ (BindsClass o) n.classes (n.classes.map (keptClassFile o)) := by
    rw [List.forall₂_map_right_iff, List.forall₂_same]
    exact fun c _ => bindsClass_keptClassFile o c
  exact ⟨hsettled, _, _, preview_boundTo o n, hclasses, isSome_keptNamespaceFile?_iff o n,
    fun file hfile => bindsFree_of_mem hfile⟩

/-- Of two constructors one is left out, and of four members one is ignored; the file of the class
wraps the others. -/
theorem bound_or_reported_image :
    ignored { ignored := ["blur"] } (.ofSources "dub" [imageSource] [])
        = [("Image::Image", .unconvertible), ("Image::blur", .configured)]
      ∧ ∃ files,
        preview { ignored := ["blur"] }
            (boundTo { ignored := ["blur"] } (.ofSources "dub" [imageSource] [])).1
            (boundTo { ignored := ["blur"] } (.ofSources "dub" [imageSource] [])).2
            (.ofSources "dub" [imageSource] []) = .ok files
          ∧ ∃ file ∈ files, file.path = "dub_Image.cpp"
            ∧ wrapperNames file.content = ["Image_Image1", "Image_scale1", "Image_scale2"] := by
  obtain ⟨-, classFiles, free?, hpreview, hclasses, -, -⟩ :=
    bound_or_reported { ignored := ["blur"] } (.ofSources "dub" [imageSource] [])
  cases hclasses with
  | @cons c file classes rest hfile hrest =>
      have hunbroken : UnbrokenClass { ignored := ["blur"] }
          (.ofSource (some "dub") imageSource) := by decide +kernel
      refine ⟨by decide +kernel, _, hpreview, file, ?_, hfile.path.trans (by decide +kernel), ?_⟩
      · exact List.mem_append_left _ (List.mem_append_left _ List.mem_cons_self)
      · exact (hfile.names hunbroken).trans (by decide +kernel)

end LuaBinder.Lua
