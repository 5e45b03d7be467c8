import LuaBinder.Decl.Sketch
import LuaBinder.Proofs.Decl.Grouping
import LuaBinder.Proofs.Lua.Fragments
import LuaBinder.Proofs.Lua.Preview
import LuaBinder.Proofs.Lua.Tables

/-!
Every binding source defines the functions that it uses.

* `ClassFile.references`, `NamespaceFile.references`: the functions that the tables of a file name
  and that its choosers return to.
* `defines_of_mem_classFile`, `defines_of_mem_namespaceFile`: the file of a class and that of a
  namespace define the functions that they reference.
* `preview_closed`: so do all files of the bindings of a namespace.
-/

namespace LuaBinder.Lua

open Code Text

/-! ### Files -/

/-- The functions that a class file needs: those of its tables, without the row that all classes
share, and those that its choosers return to. -/
def ClassFile.references (file : ClassFile) : List String :=
  (file.methods.filter (· != deletedRow)).map Row.identifier
    ++ file.creators.map Row.identifier
    ++ (file.constructors ++ file.members).flatMap Fragment.targets

/-- The functions that a namespace file needs. -/
def NamespaceFile.references (file : NamespaceFile) : List String :=
  file.rows.map Row.identifier ++ file.functions.flatMap Fragment.targets

/-- A part at the outermost level of a file brings its definitions along. -/
lemma defines_of_defined {front back : List Step} {parts : List Fragment} {name : String}
    (hfront : Builder.flatAll front = true) (hparts : ∀ part ∈ parts, .lines part.text ∈ front)
    (h : Defined parts name) : Defines (render (front ++ back)) name := by
  obtain ⟨part, hpart, hdef⟩ := h
  exact mem_lines_render_of_mem (isRow_definitionLine (oneLine_of_defines hdef)) hfront
    (hparts part hpart) hdef

namespace ClassFile

variable {file : ClassFile}

lemma defines_of_mem_parts {name : String}
    (h : Defined (file.constructors ++ file.members) name) : Defines file.text name := by
  obtain ⟨back, htext⟩ := file.text_eq
  rw [htext]
  exact defines_of_defined file.flatAll_functionSteps (fun _ => file.lines_mem_functionSteps) h

/-- The two hooks of a class are defined in its file. -/
lemma defines_hook {name : String} (hname : OneLine name)
    (h : name = file.destructorName ∨ name = file.tostringName) : Defines file.text name := by
  obtain ⟨back, htext⟩ := file.text_eq
  have hhook : ∃ s ∈ file.hookSteps, s.Shows (definitionLine name) := by
    rcases h with rfl | rfl
    · exact ⟨_, List.mem_cons_self, rfl⟩
    · exact ⟨_, List.mem_cons_of_mem _ (List.mem_cons_of_mem _ List.mem_cons_self), rfl⟩
  obtain ⟨s, hs, hshows⟩ := hhook
  rw [htext]
  refine mem_lines_render_of_mem (isRow_definitionLine hname) file.flatAll_functionSteps ?_ hshows
  rw [functionSteps]
  exact List.mem_append_left _ (List.mem_append_right _ hs)

end ClassFile

namespace NamespaceFile

variable {file : NamespaceFile}

lemma defines_of_mem_parts {name : String} (h : Defined file.functions name) :
    Defines file.text name := by
  obtain ⟨back, htext⟩ := file.text_eq
  rw [htext]
  exact defines_of_defined file.flatAll_functionSteps (fun _ => file.lines_mem_functionSteps) h

end NamespaceFile

/-! ### Functions that get bindings -/

/-- The names of a function break no line if neither its own name nor those of its owner do. -/
lemma oneLined_of_owner {f : FunctionDecl} {owner : Owner} (howner : f.owner = some owner)
    (hscope : f.scope = owner.name) (hname : OneLine f.name) (hownerName : OneLine owner.name)
    (hlibrary : OneLine owner.library) : OneLined f := by
  refine ⟨hscope ▸ hownerName, hname, ?_, ?_⟩
  · rw [FunctionDecl.qualifiedName, howner]
    cases owner with
    | ofClass name library =>
        exact (OneLine.append hownerName (by decide : OneLine "::")).append hname
    | ofNamespace name => exact hname
  · rw [FunctionDecl.library, howner]
    exact hlibrary

/-- What is kept of a member list can be bound, if the names allow it. -/
lemma bindable_of_mem_kept {o : Options} {ms : List (Member FunctionDecl)}
    (hms : ∀ f ∈ Member.leavesAll ms, OneLined f) :
    ∀ f ∈ Member.leavesAll (keptSlots o ms), Bindable f := by
  intro f hf
  have hconvertible := isConvertible_of_mem_keptSlots o ms f hf
  rw [leavesAll_keptSlots, List.mem_filter] at hf
  exact ⟨hms f hf.1, hconvertible⟩

lemma bindable_of_mem_keptConstructors {o : Options} {c : ClassDecl}
    (hc : ∀ f ∈ c.constructors, OneLined f) : ∀ f ∈ keptConstructors o c, Bindable f := by
  intro f hf
  exact ⟨hc f (List.mem_filter.mp hf).1, isConvertible_of_mem_keptConstructors o c f hf⟩

lemma closed_ofKept (o : Options) {c : ClassDecl} (hc : ∀ f ∈ c.functions, OneLined f) :
    Closed ((ClassFile.ofKept o c).constructors ++ (ClassFile.ofKept o c).members)
      ((creatorRows c (keptConstructors o c)).map Row.identifier
        ++ ((keptSlots o c.members).flatMap slotRow).map Row.identifier) := by
  rw [ClassDecl.functions, List.forall_mem_append] at hc
  exact (closed_constructorParts c (bindable_of_mem_keptConstructors hc.1)).append
    (closed_flatMap_slotParts (bindable_of_mem_kept hc.2))

/-! ### Files of declarations -/

/-- The file of a class defines the functions that it references. -/
lemma defines_of_mem_classFile (o : Options) {c : ClassDecl} (hname : OneLine c.name)
    (hc : ∀ f ∈ c.functions, OneLined f) :
    ∀ x ∈ (ClassFile.ofKept o c).references, Defines (ClassFile.ofKept o c).text x := by
  have hclosed := closed_ofKept o hc
  intro x hx
  rw [ClassFile.references] at hx
  rcases List.mem_append.mp hx with hx | hx
  · rcases List.mem_append.mp hx with hx | hx
    · obtain ⟨row, hrow, rfl⟩ := List.mem_map.mp hx
      obtain ⟨hrow, hne⟩ := List.mem_filter.mp hrow
      rcases List.mem_append.mp hrow with hrow | hrow
      · rcases List.mem_append.mp hrow with hrow | hrow
        · exact ClassFile.defines_of_mem_parts
            (hclosed.names _ (List.mem_append_right _ (List.mem_map_of_mem hrow)))
        · have hhook : row.identifier = c.tostringName ∨ row.identifier = c.destructorName := by
            simp only [List.mem_cons, List.not_mem_nil, or_false] at hrow
            rcases hrow with rfl | rfl
            · exact .inl rfl
            · exact .inr rfl
          have hline : OneLine row.identifier := by
            rcases hhook with heq | heq <;> rw [heq]
            · exact hname.append (by decide)
            · exact hname.append (by decide)
          exact ClassFile.defines_hook hline hhook.symm
      · rw [List.mem_singleton.mp hrow] at hne
        simp at hne
    · exact ClassFile.defines_of_mem_parts (hclosed.names x (List.mem_append_left _ hx))
  · exact ClassFile.defines_of_mem_parts (hclosed.targets x hx)

/-- So does the file of a namespace. -/
lemma defines_of_mem_namespaceFile (o : Options) {n : NamespaceDecl}
    (hn : ∀ f ∈ n.freeFunctions, OneLined f) :
    ∀ x ∈ (NamespaceFile.ofKept o n).references, Defines (NamespaceFile.ofKept o n).text x := by
  have hclosed := closed_flatMap_slotParts (bindable_of_mem_kept (o := o) hn)
  intro x hx
  rw [NamespaceFile.references] at hx
  rcases List.mem_append.mp hx with hx | hx
  · exact NamespaceFile.defines_of_mem_parts (hclosed.names x hx)
  · exact NamespaceFile.defines_of_mem_parts (hclosed.targets x hx)

/-! ### All files of a namespace -/

/-- A file is the binding source of a class or of the free functions. Its text has the tables of
functions with the rows of the source, and the choosers of the source, whose lines return to their
targets; and it defines the functions that these reference. -/
inductive ClosedFile (o : Options) (n : NamespaceDecl) (file : GeneratedFile) : Prop where
  | ofClass (c : ClassDecl) (source : ClassFile) (hc : c ∈ n.classes)
      (hsource : ClassFile.ofClass o everywhere c = .ok source)
      (hfile : file = ⟨classPath c, source.text⟩)
      (hmethods : HasTable file.content (source.name ++ "_member_methods") source.methods)
      (hcreators : HasTable file.content (source.name ++ "_namespace_methods") source.creators)
      (hchoosers : ∀ chooser, .chooser (some chooser) ∈ source.constructors ++ source.members →
        HasChooser file.content chooser)
      (hdefines : ∀ x ∈ source.references, Defines file.content x)
  | ofNamespace (source : NamespaceFile)
      (hsource : NamespaceFile.ofNamespace o everywhere n = .ok source)
      (hfile : file = ⟨sourcePath n.name, source.text⟩)
      (hfunctions : HasTable file.content (source.name ++ "_functions") source.rows)
      (hchoosers : ∀ chooser, .chooser (some chooser) ∈ source.functions →
        HasChooser file.content chooser)
      (hdefines : ∀ x ∈ source.references, Defines file.content x)

lemma exists_closed_classFile (o : Options) {n : NamespaceDecl} {c : ClassDecl} {i : Nat}
    (hi : (c, i) ∈ n.classes.zipIdx) (hname : OneLine c.name)
    (hc : ∀ f ∈ c.functions, OneLined f) :
    ∃ file, classFile (boundTo o n).1 (boundTo o n).2 c i = .ok file ∧ ClosedFile o n file := by
  have hget := List.mem_zipIdx_iff_getElem?.mp hi
  refine ⟨⟨classPath c, (ClassFile.ofKept o c).text⟩, ?_,
    .ofClass c _ (List.mem_of_getElem? hget) (ofClass_eq everywhere_eq o c) rfl
      (hasTable_methods _) (hasTable_creators _)
      (fun chooser hmem => hasChooser_classFile hmem ((closed_ofKept o hc).choosers chooser hmem))
      (defines_of_mem_classFile o hname hc)⟩
  rw [classFile, renderClass_boundTo o n c (List.getElem?_eq_some_iff.mp hget).1,
    ofClass_eq everywhere_eq]
  rfl

lemma exists_closed_namespaceFile (o : Options) {n : NamespaceDecl}
    (hn : ∀ f ∈ n.freeFunctions, OneLined f) :
    ∃ file?, namespaceFile? o (boundTo o n).2 n = .ok file?
      ∧ ∀ file ∈ file?.toList, ClosedFile o n file := by
  rw [namespaceFile?]
  split
  · exact ⟨none, rfl, fun _ h => absurd h List.not_mem_nil⟩
  · refine ⟨some ⟨sourcePath n.name, (NamespaceFile.ofKept o n).text⟩, ?_, fun file hfile => ?_⟩
    · rw [renderNamespace_boundTo, ofNamespace_eq everywhere_eq]
      rfl
    · rw [Option.toList_some, List.mem_singleton] at hfile
      rw [hfile]
      have hclosed := closed_flatMap_slotParts (bindable_of_mem_kept (o := o) hn)
      exact .ofNamespace _ (ofNamespace_eq everywhere_eq o n) rfl (hasTable_functions _)
        (fun chooser hmem => hasChooser_namespaceFile hmem (hclosed.choosers chooser hmem))
        (defines_of_mem_namespaceFile o hn)

/-- **Closure of the binding sources.** The bindings of a namespace are always made, for every list
of ignored functions, and every file of them defines the functions that it references: those that
its tables register, and those that its choosers return to. The text of the file shows both, the
rows of these tables and the targets in the lines of these choosers. -/
theorem preview_closed (o : Options) (name : String) (classes : List ClassSource)
    (functions : List Element) (n : NamespaceDecl)
    (hn : n = NamespaceDecl.ofSources name classes functions) (hname : OneLine name)
    (hclasses : ∀ c ∈ classes, OneLine c.name ∧ ∀ node ∈ c.members, OneLine (declaredName node))
    (hfunctions : ∀ node ∈ functions, OneLine (declaredName node)) :
    ∃ files, preview o (boundTo o n).1 (boundTo o n).2 n = .ok (files ++ [supportFile])
      ∧ ∀ file ∈ files, ClosedFile o n file := by
  have hall : ∀ entry ∈ n.classes.zipIdx,
      ∃ file, classFile (boundTo o n).1 (boundTo o n).2 entry.1 entry.2 = .ok file
        ∧ ClosedFile o n file := by
    rintro ⟨c, i⟩ hentry
    have hc : c ∈ n.classes := List.mem_of_getElem? (List.mem_zipIdx_iff_getElem?.mp hentry)
    rw [hn] at hc
    obtain ⟨source, hsource, rfl⟩ := List.mem_map.mp hc
    obtain ⟨hclass, hnodes⟩ := hclasses source hsource
    refine exists_closed_classFile o hentry hclass fun f hf => ?_
    obtain ⟨hscope, node, hnode, heq⟩ := ClassDecl.exists_node_of_mem hf
    exact oneLined_of_owner ((grouping_ofSource (some name) source).owner_of_mem hf) hscope
      (heq ▸ hnodes node hnode) hclass hname
  have hfree : ∀ f ∈ n.freeFunctions, OneLined f := by
    intro f hf
    rw [hn] at hf
    obtain ⟨hscope, node, hnode, heq⟩ := NamespaceDecl.exists_node_of_mem hf
    exact oneLined_of_owner ((grouping_ofSources name classes functions).owner_of_mem hf) hscope
      (heq ▸ hfunctions node hnode) hname hname
  obtain ⟨classFiles, hclassFiles, hclosed⟩ := exists_mapM_eq_ok hall
  obtain ⟨file?, hfile?, hfreeClosed⟩ := exists_closed_namespaceFile o hfree
  refine ⟨classFiles ++ file?.toList, ?_, fun file hfile => ?_⟩
  · have hfiles : bindingFiles o (boundTo o n).1 (boundTo o n).2 n
        = .ok (classFiles ++ file?.toList) := by
      rw [bindingFiles]
      exact bind_eq_ok_iff.mpr ⟨classFiles, hclassFiles,
        bind_eq_ok_iff.mpr ⟨file?, hfile?, rfl⟩⟩
    rw [preview, hfiles]
    rfl
  · rcases List.mem_append.mp hfile with hfile | hfile
    · obtain ⟨-, -, hfileClosed⟩ := exists_left_of_mem hclosed hfile
      exact hfileClosed
    · exact hfreeClosed file hfile

/-- A class with a constructor that cannot be bound beside one that can, and with overloads. -/
def imageSource : ClassSource where
  name := "Image"
  node := Sketch.compound "Image" "image.h"
  members :=
    [("Image", []), ("Image", [Sketch.param "int *" "pixels" none]),
     ("scale", [Sketch.param "int" "factor" none]),
     ("scale", [Sketch.param "double" "factor" none]), ("blur", [])].map
      fun (name, params) => { name, result := "void", params : Sketch }.declare

/-- Neither the constructor that is left out nor an ignored function leaves a name behind that
nothing defines. -/
theorem preview_closed_image :
    OneLine "dub"
      ∧ (∀ c ∈ [imageSource], OneLine c.name ∧ ∀ node ∈ c.members, OneLine (declaredName node))
      ∧ ∃ files,
        preview { ignored := ["blur"] }
            (boundTo { ignored := ["blur"] } (.ofSources "dub" [imageSource] [])).1
            (boundTo { ignored := ["blur"] } (.ofSources "dub" [imageSource] [])).2
            (.ofSources "dub" [imageSource] []) = .ok (files ++ [supportFile])
          ∧ ∀ file ∈ files,
            ClosedFile { ignored := ["blur"] } (.ofSources "dub" [imageSource] []) file := by
  have hname : OneLine "dub" := by decide
  have hclasses : ∀ c ∈ [imageSource],
      OneLine c.name ∧ ∀ node ∈ c.members, OneLine (declaredName node) := by decide +kernel
  refine ⟨hname, hclasses, ?_⟩
  exact preview_closed { ignored := ["blur"] } "dub" [imageSource] [] _ rfl hname hclasses
    fun node hnode => absurd hnode List.not_mem_nil

end LuaBinder.Lua
