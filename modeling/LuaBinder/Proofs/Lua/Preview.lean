import LuaBinder.Proofs.Lua.Rendering

/-!
The bindings of a namespace are made without an error.

Under a namespace that is bound to a renderer, every function below it finds this renderer, and what
the renderer could not write has been left out.

* `everywhere`: the resolver under a bound namespace, see `renderClass_boundTo`.
* `keptFiles`: the files of the bindings, as a total function of the declarations.
* `preview_total`: wrappers and choosers exist exactly where all functions are convertible, and all
  files of a namespace are made.
-/

namespace LuaBinder.Lua

/-! ### Resolution under a bound namespace -/

/-- Every function has the renderer of wrappers. -/
def everywhere : Resolver := fun _ => some wrappers

lemma everywhere_eq (f : FunctionDecl) : everywhere f = some wrappers := rfl

/-- Under a namespace that is bound, every class of it is bound. -/
lemma renderClass_boundTo (o : Options) (n : NamespaceDecl) (c : ClassDecl) {i : Nat}
    (hi : i < n.classes.length) :
    (boundTo o n).2.renderClass (boundTo o n).1 i c
      = (ClassFile.ofClass o everywhere c).map ClassFile.text := by
  have hroot : (boundTo o n).1.inRoot i = true := decide_eq_true hi
  have hclass : (boundTo o n).2.forClass (boundTo o n).1 i = some (renderer o) := by
    rw [Bindings.forClass, hroot]
    rfl
  have hmember : (boundTo o n).2.forMember (boundTo o n).1 i = everywhere := by
    funext f
    rw [Bindings.forMember, Bindings.classDefault, hclass]
    rfl
  rw [Bindings.renderClass, hclass, hmember]
  rfl

lemma renderNamespace_boundTo (o : Options) (n : NamespaceDecl) :
    (boundTo o n).2.renderNamespace n
      = (NamespaceFile.ofNamespace o everywhere n).map NamespaceFile.text := rfl

/-! ### The files -/

/-- The file of a class. -/
def keptClassFile (o : Options) (c : ClassDecl) : GeneratedFile where
  path := classPath c
  content := (ClassFile.ofKept o c).text

/-- The file of the free functions, absent when none of them is kept. -/
def keptNamespaceFile? (o : Options) (n : NamespaceDecl) : Option GeneratedFile :=
  if (keptSlots o n.functions).isEmpty then none
  else some { path := sourcePath n.name, content := (NamespaceFile.ofKept o n).text }

/-- The files of a namespace: one for every class, one for the free functions if some of them are
kept, and the support header. -/
def keptFiles (o : Options) (n : NamespaceDecl) : List GeneratedFile :=
  n.classes.map (keptClassFile o) ++ (keptNamespaceFile? o n).toList ++ [supportFile]

lemma classFile_boundTo (o : Options) (n : NamespaceDecl) {c : ClassDecl} {i : Nat}
    (hi : i < n.classes.length) :
    classFile (boundTo o n).1 (boundTo o n).2 c i = .ok (keptClassFile o c) := by
  rw [classFile, renderClass_boundTo o n c hi, ofClass_eq everywhere_eq]
  rfl

lemma mapM_classFile_boundTo (o : Options) (n : NamespaceDecl) :
    (n.classes.zipIdx.mapM fun (c, i) => classFile (boundTo o n).1 (boundTo o n).2 c i)
      = .ok (n.classes.map (keptClassFile o)) := by
  have hclasses : n.classes.map (keptClassFile o)
      = n.classes.zipIdx.map (keptClassFile o ∘ Prod.fst) := by
    rw [← List.map_map, List.zipIdx_map_fst]
  rw [hclasses, mapM_eq_ok_iff, List.forall₂_map_right_iff, List.forall₂_same]
  rintro ⟨c, i⟩ hentry
  have hget := List.mem_zipIdx_iff_getElem?.mp hentry
  exact classFile_boundTo o n (List.getElem?_eq_some_iff.mp hget).1

/-- Nothing is left of a member list exactly when no slot of it is kept. -/
lemma isNone_keptMembers (o : Options) (members : List (Member FunctionDecl)) :
    (keptMembers o members).isNone = (keptSlots o members).isEmpty := by
  rw [keptSlots, keptMembers, filterMembers]
  cases Member.filterAll (isExcluded o) members with
  | nil => rfl
  | cons m ms => rfl

lemma namespaceFile?_boundTo (o : Options) (n : NamespaceDecl) :
    namespaceFile? o (boundTo o n).2 n = .ok (keptNamespaceFile? o n) := by
  rw [namespaceFile?, keptNamespaceFile?, isNone_keptMembers]
  split
  · rfl
  · rw [renderNamespace_boundTo, ofNamespace_eq everywhere_eq]
    rfl

/-- The files of a bound namespace are made without an error. -/
lemma preview_boundTo (o : Options) (n : NamespaceDecl) :
    preview o (boundTo o n).1 (boundTo o n).2 n = .ok (keptFiles o n) := by
  have hfiles : bindingFiles o (boundTo o n).1 (boundTo o n).2 n
      = .ok (n.classes.map (keptClassFile o) ++ (keptNamespaceFile? o n).toList) := by
    rw [bindingFiles]
    exact bind_eq_ok_iff.mpr ⟨_, mapM_classFile_boundTo o n,
      bind_eq_ok_iff.mpr ⟨_, namespaceFile?_boundTo o n, rfl⟩⟩
  rw [preview, hfiles]
  rfl

/-- **The filter decides what can be written.** A function has a wrapper exactly when it is
convertible, and overloads have a chooser exactly when all of them are. The bindings of every
namespace are therefore made without an error, whatever its declarations hold. -/
theorem preview_total :
    (∀ f : FunctionDecl, (∃ text, wrappers.render f = .ok text) ↔ isConvertible f = true)
      ∧ (∀ fs : List FunctionDecl,
        (∃ text, chooserText fs = .ok text) ↔ ∀ f ∈ fs, isConvertible f = true)
      ∧ ∀ (o : Options) (name : String) (classes : List ClassSource) (functions : List Element),
        let n := NamespaceDecl.ofSources name classes functions
        preview o (boundTo o n).1 (boundTo o n).2 n = .ok (keptFiles o n) := by
  refine ⟨fun f => exists_render_iff, fun fs => exists_chooserText_iff, ?_⟩
  intro o name classes functions
  exact preview_boundTo o (.ofSources name classes functions)

end LuaBinder.Lua
