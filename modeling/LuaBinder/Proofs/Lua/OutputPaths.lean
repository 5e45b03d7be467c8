import LuaBinder.Proofs.Doxygen.Requirements
import LuaBinder.Proofs.Lua.Generation

/-!
Which files of a namespace share a path.

The path of a class is made from the last segment of its qualified name, so that two nested classes
can meet, and the file that is written last is the one that stands. No other two files meet. The
names are those of the compounds as they are read, whatever reads them.

* `nodup_paths_iff`: the paths are distinct exactly when the names of the classes are.
* `paths_distinct_iff`: for a loaded namespace these are the last segments of its compounds.
* `paths_shared_node`: two nested classes that meet.
-/

namespace LuaBinder.Lua

open Store Text Doxygen

variable {o : Options} {n : NamespaceDecl}

/-! ### Paths and names -/

lemma sourcePath_inj {stem stem' : String} : sourcePath stem = sourcePath stem' ↔ stem = stem' := by
  rw [sourcePath, sourcePath, String.append_left_inj]

lemma classPath_of_library {c : ClassDecl} {library : String} (h : c.library = some library) :
    classPath c = sourcePath (library ++ "_" ++ c.name) := by
  rw [classPath, h]

/-- Classes of one namespace share a path exactly when they share their name. -/
lemma classPath_eq_iff {c c' : ClassDecl} {library : String} (h : c.library = some library)
    (h' : c'.library = some library) : classPath c = classPath c' ↔ c.name = c'.name := by
  rw [classPath_of_library h, classPath_of_library h', sourcePath_inj, String.append_right_inj]

/-- No class meets the file of the free functions. -/
lemma classPath_ne_sourcePath {c : ClassDecl} {library : String} (h : c.library = some library) :
    classPath c ≠ sourcePath library := by
  rw [classPath_of_library h, Ne, sourcePath_inj]
  intro heq
  have hlength := congrArg String.length heq
  rw [String.length_append, String.length_append] at hlength
  have hunderscore : "_".length = 1 := rfl
  omega

/-- No source meets the support header. -/
lemma sourcePath_ne_support (stem : String) : sourcePath stem ≠ supportFile.path := by
  intro heq
  have hend := endsWith_sourcePath stem
  rw [heq] at hend
  revert hend
  decide

/-- The paths of the classes, then that of the free functions, then that of the support header. -/
lemma map_path_keptFiles : (keptFiles o n).map (·.path)
    = n.classes.map classPath ++ (keptNamespaceFile? o n).toList.map (·.path)
      ++ [supportFile.path] := by
  rw [keptFiles, List.map_append, List.map_append, List.map_map, List.map_singleton]
  rfl

lemma path_of_keptNamespaceFile? {file : GeneratedFile}
    (h : file ∈ (keptNamespaceFile? o n).toList) : file.path = sourcePath n.name := by
  rw [Option.mem_toList, keptNamespaceFile?] at h
  split at h
  · cases h
  · cases h
    rfl

/-- The files of a namespace have distinct paths exactly when its classes have distinct names. -/
lemma nodup_paths_iff (hn : ∀ c ∈ n.classes, c.library = some n.name) :
    ((keptFiles o n).map (·.path)).Nodup ↔ (n.classes.map (·.name)).Nodup := by
  have hclasses : (n.classes.map classPath).Nodup ↔ (n.classes.map (·.name)).Nodup := by
    simp only [List.Nodup, List.pairwise_map]
    refine List.Pairwise.iff_of_mem fun {c c'} hc hc' => ?_
    rw [Ne, classPath_eq_iff (hn c hc) (hn c' hc')]
  have hfree : ((keptNamespaceFile? o n).toList.map (·.path)).Nodup := by
    cases keptNamespaceFile? o n with
    | none => exact List.nodup_nil
    | some file => exact List.nodup_singleton _
  have hsources : ∀ path ∈ n.classes.map classPath ++ (keptNamespaceFile? o n).toList.map (·.path),
      path ≠ supportFile.path := by
    rw [List.forall_mem_append]
    refine ⟨List.forall_mem_map.mpr fun c hc => ?_, List.forall_mem_map.mpr fun file hfile => ?_⟩
    · rw [classPath_of_library (hn c hc)]
      exact sourcePath_ne_support _
    · rw [path_of_keptNamespaceFile? hfile]
      exact sourcePath_ne_support _
  have hapart : ∀ path ∈ n.classes.map classPath,
      ∀ path' ∈ (keptNamespaceFile? o n).toList.map (·.path), path ≠ path' := by
    refine List.forall_mem_map.mpr fun c hc => List.forall_mem_map.mpr fun file hfile => ?_
    rw [path_of_keptNamespaceFile? hfile]
    exact classPath_ne_sourcePath (hn c hc)
  rw [map_path_keptFiles, List.nodup_append, List.nodup_append, hclasses]
  constructor
  · exact fun h => h.1.1
  · intro h
    exact ⟨⟨h, hfree, hapart⟩, List.nodup_singleton _, fun path hpath support hsupport =>
      List.mem_singleton.mp hsupport ▸ hsources path hpath⟩

/-! ### Loaded namespaces -/

/-- Two definitions are kept apart when one of them describes no class, or when their qualified
names differ in the last segment. -/
def KeptApart (d d' : Element) : Prop :=
  ¬ OpensLast (d.childText "compoundname") → ¬ OpensLast (d'.childText "compoundname") →
    shortName (d.childText "compoundname") ≠ shortName (d'.childText "compoundname")

/-- Definitions are kept apart exactly when the classes that they describe differ by name. -/
lemma keptApart_iff {d d' : Element} :
    KeptApart d d' ↔ ∀ c, classOf? d = some c → ∀ c', classOf? d' = some c' → c.name ≠ c'.name := by
  rw [KeptApart, ← classOf?_isSome_iff, ← classOf?_isSome_iff]
  constructor
  · intro h c hc c' hc'
    rw [(describesClass_of_classOf? hc).name, (describesClass_of_classOf? hc').name]
    exact h (hc ▸ rfl) (hc' ▸ rfl)
  · intro h hd hd'
    obtain ⟨c, hc⟩ := Option.isSome_iff_exists.mp hd
    obtain ⟨c', hc'⟩ := Option.isSome_iff_exists.mp hd'
    rw [← (describesClass_of_classOf? hc).name, ← (describesClass_of_classOf? hc').name]
    exact h c hc c' hc'

lemma library_namespaceOf (name : String) (definition : Element) (definitions : List Element) :
    ∀ c ∈ (namespaceOf name definition definitions).classes, c.library = some name :=
  List.forall_mem_map.mpr fun _ _ => rfl

/-- The classes of a namespace differ by name exactly when the definitions are kept apart. -/
lemma nodup_names_namespaceOf (name : String) (definition : Element) (definitions : List Element) :
    ((namespaceOf name definition definitions).classes.map (·.name)).Nodup
      ↔ definitions.Pairwise KeptApart := by
  have hnames : (namespaceOf name definition definitions).classes.map (·.name)
      = (definitions.filterMap classOf?).map (·.name) := by
    rw [← map_foldl_resolveAlias (f := (·.name)) (fun _ _ => rfl) (memberDefs definition "typedef"),
      namespaceOf, NamespaceDecl.ofSources, List.map_map]
    rfl
  rw [hnames, List.Nodup, List.pairwise_map, List.pairwise_filterMap]
  exact List.Pairwise.iff fun _ _ => keptApart_iff.symm

/-- A namespace with the class `A::Node` and another one nested in the class `B`. -/
def nestedDirectory (second : String) : FileSystem where
  entries := [
    (["xml"], .directory),
    (["xml", "index.xml"], .file <| String.toUTF8 <|
      "<doxygenindex><compound refid=\"lib\" kind=\"namespace\"><name>lib</name></compound>"
        ++ "</doxygenindex>"),
    (["xml", "lib.xml"], .file <| String.toUTF8 <|
      "<doxygen><compounddef><innerclass refid=\"first\"/><innerclass refid=\"second\"/>"
        ++ "</compounddef></doxygen>"),
    (["xml", "first.xml"], .file <| String.toUTF8 <|
      "<doxygen><compounddef><compoundname>lib::A::Node</compoundname></compounddef></doxygen>"),
    (["xml", "second.xml"], .file <| String.toUTF8 <|
      "<doxygen><compounddef><compoundname>" ++ second ++ "</compoundname></compounddef>"
        ++ "</doxygen>")]

variable {fs : FileSystem} {root : String} {name : Option String}

/-- The files of a loaded namespace, and so those that a run writes or keeps, have distinct paths
exactly when no two of its public classes, templates left out, share the last segment of their
qualified names. -/
theorem paths_distinct_iff (h : loadNamespace fs root name = .ok n) (o : Options) :
    ∃ entry definition definitions, LoadsFrom fs root name entry definition definitions
      ∧ ∃ files, preview o (boundTo o n).1 (boundTo o n).2 n = .ok files
        ∧ ((files.map (·.path)).Nodup ↔ definitions.Pairwise KeptApart)
        ∧ ∀ fs₁ base fs₂ done,
          generate fs₁ base o (boundTo o n).1 (boundTo o n).2 n = (fs₂, .ok done) →
            done.written ++ done.kept = files.map (·.path) := by
  obtain ⟨entry, definition, definitions, hfrom, rfl⟩ := loadNamespace_eq_ok_iff.mp h
  refine ⟨entry, definition, definitions, hfrom, _, preview_boundTo o _, ?_, ?_⟩
  · rw [nodup_paths_iff (library_namespaceOf _ _ _), nodup_names_namespaceOf]
  · intro fs₁ base fs₂ done hdone
    obtain ⟨sources, hsources, hfiles⟩ := preview_eq_ok_iff.mp (preview_boundTo o _)
    obtain ⟨files, kept, hrun, rfl⟩ := (generate_eq_ok_iff hsources).mp hdone
    rw [hfiles]
    exact hrun.paths

/-- Nested classes whose last segments differ have files of their own. -/
theorem paths_distinct_edge :
    ∃ n, loadNamespace (nestedDirectory "lib::B::Edge") "xml" (some "lib") = .ok n
      ∧ ∃ files, preview {} (boundTo {} n).1 (boundTo {} n).2 n = .ok files
        ∧ (files.map (·.path)).Nodup
        ∧ ∃ entry definition definitions,
          LoadsFrom (nestedDirectory "lib::B::Edge") "xml" (some "lib") entry definition definitions
            ∧ definitions.Pairwise KeptApart := by
  obtain ⟨n, hload, hpaths⟩ : ∃ n,
      loadNamespace (nestedDirectory "lib::B::Edge") "xml" (some "lib") = .ok n
        ∧ (keptFiles {} n).map (·.path) = ["lib_Node.cpp", "lib_Edge.cpp", "dub/dub.h"] :=
    exists_eq_ok_of_any (by decide +kernel)
  obtain ⟨entry, definition, definitions, hfrom, files, hfiles, hiff, -⟩ :=
    paths_distinct_iff hload {}
  have hkept : keptFiles {} n = files := Except.ok.inj ((preview_boundTo {} n).symm.trans hfiles)
  have hnodup : (files.map (·.path)).Nodup := by
    rw [← hkept, hpaths]
    decide
  exact ⟨n, hload, files, hfiles, hnodup, entry, definition, definitions, hfrom, hiff.mp hnodup⟩

/-- Two nested classes of one last segment share their file, and the first of them is lost. -/
theorem paths_shared_node :
    ∃ n, loadNamespace (nestedDirectory "lib::B::Node") "xml" (some "lib") = .ok n
      ∧ n.classes.map (·.node.childText "compoundname") = ["lib::A::Node", "lib::B::Node"]
      ∧ ∃ files, preview {} (boundTo {} n).1 (boundTo {} n).2 n = .ok files
        ∧ files.map (·.path) = ["lib_Node.cpp", "lib_Node.cpp", "dub/dub.h"]
        ∧ ¬ (files.map (·.path)).Nodup := by
  obtain ⟨n, hload, hnames, hpaths⟩ : ∃ n,
      loadNamespace (nestedDirectory "lib::B::Node") "xml" (some "lib") = .ok n
        ∧ n.classes.map (·.node.childText "compoundname") = ["lib::A::Node", "lib::B::Node"]
        ∧ (keptFiles {} n).map (·.path) = ["lib_Node.cpp", "lib_Node.cpp", "dub/dub.h"] :=
    exists_eq_ok_of_any (by decide +kernel)
  exact ⟨n, hload, hnames, _, preview_boundTo {} n, hpaths, hpaths ▸ by decide⟩

end LuaBinder.Lua
