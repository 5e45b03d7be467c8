import LuaBinder.Proofs.Decl.Grouping
import LuaBinder.Proofs.Lua.Preview

/-!
Ignoring a name is the same as not declaring it.

A name stands for all functions of a slot, so a filter that ignores it takes the whole slot away and
leaves the numbers in all other slots as they are.

* `namesDeclared`, `declaredWithout`: the declarations of an owner that a list of names means, and
  those that are left without them.
* `namedNodes_declaredWithout`, `slotNames_declaredWithout`: what is left of the groups.
* `keptSlots_declaredWithout`, `keptConstructors_without`: the same slots and constructors are kept.
* `preview_ignored`: the files of the bindings are the same.
-/

namespace LuaBinder

/-! ### Declarations without some names -/

/-- A name as it is known outside of its owner, with the class in front for a member. -/
def Owner.qualify : Owner → String → String
  | .ofClass cls _, name => cls ++ "::" ++ name
  | .ofNamespace _, name => name

/-- A list of names means a function of an owner, by its own name or by the qualified one. -/
def namesDeclared (ignored : List String) (owner : Owner) (name : String) : Bool :=
  ignored.any fun other => other == name || other == owner.qualify name

/-- The declarations of an owner without those that a list of names means. -/
def declaredWithout (ignored : List String) (owner : Owner) (nodes : List Element) :
    List Element :=
  nodes.filter fun node => ! namesDeclared ignored owner (declaredName node)

/-- A class without the members that a list of names means. -/
def ClassSource.without (ignored : List String) (source : ClassSource) : ClassSource :=
  { source with members := declaredWithout ignored (.ofClass source.name none) source.members }

variable {ignored : List String} {owner : Owner} {nodes : List Element} {name : String}

/-- The other names keep all of their declarations. -/
lemma namedNodes_declaredWithout (h : namesDeclared ignored owner name = false) :
    namedNodes (declaredWithout ignored owner nodes) name = namedNodes nodes name := by
  rw [namedNodes, declaredWithout, List.filter_filter]
  refine List.filter_congr fun node _ => ?_
  by_cases hname : declaredName node = name
  · simp [hname, h]
  · simp [hname]

/-- The names that are meant have none left. -/
lemma namedNodes_eq_nil (h : namesDeclared ignored owner name = true) :
    namedNodes (declaredWithout ignored owner nodes) name = [] := by
  rw [namedNodes, declaredWithout, List.filter_filter, List.filter_eq_nil_iff]
  intro node _ hboth
  rw [Bool.and_eq_true, beq_iff_eq] at hboth
  rw [hboth.1, h] at hboth
  cases hboth.2

/-- The other names keep their order. -/
lemma slotNames_declaredWithout (ignored : List String) (owner : Owner) (nodes : List Element) :
    slotNames owner (declaredWithout ignored owner nodes)
      = (slotNames owner nodes).filter (! namesDeclared ignored owner ·) := by
  have hnames : (declaredWithout ignored owner nodes).map declaredName
      = (nodes.map declaredName).filter (! namesDeclared ignored owner ·) := by
    rw [List.filter_map]
    rfl
  rw [slotNames, slotNames, hnames, distinct_filter, List.filter_comm]

namespace Lua

/-! ### Slots without some names -/

variable {headerBase : Option String}

/-- A function is excluded exactly when its name is ignored or it would be excluded anyway. -/
lemma isExcluded_eq {f : FunctionDecl} (howner : f.owner = some owner) :
    isExcluded { ignored, headerBase } f
      = (namesDeclared ignored owner f.name || isExcluded { headerBase } f) := by
  have hnames : Options.names { ignored, headerBase } f = namesDeclared ignored owner f.name := by
    rw [Options.names, namesDeclared, FunctionDecl.qualifiedName, howner]
    cases owner <;> rfl
  have hnone : Options.names { headerBase } f = false := rfl
  simp only [isExcluded, exclusion?, hnames, hnone]
  split_ifs <;> simp_all

/-- All functions of a name are kept or left out as if their names were not ignored, unless the
name is meant. -/
lemma isExcluded_numbered {f : FunctionDecl} {group : List Element}
    (hf : f ∈ numbered owner owner.name name group) :
    isExcluded { ignored, headerBase } f
      = (namesDeclared ignored owner name || isExcluded { headerBase } f) := by
  obtain ⟨howner, -, hname⟩ := (functionsOf_numbered owner name group).named f hf
  rw [isExcluded_eq howner, hname]

/-- The slots of an owner that are kept are those of the declarations without the ignored names. -/
lemma keptSlots_declaredWithout (ignored : List String) (headerBase : Option String)
    (owner : Owner) (nodes : List Element) :
    keptSlots { ignored, headerBase } ((slotNames owner nodes).map fun name =>
        slot (numbered owner owner.name name (namedNodes nodes name)))
      = keptSlots { headerBase } ((slotNames owner (declaredWithout ignored owner nodes)).map
        fun name => slot (numbered owner owner.name name
          (namedNodes (declaredWithout ignored owner nodes) name))) := by
  simp only [keptSlots, keptMembers, filterMembers_getD, Member.filterAll_eq_filterMap,
    List.filterMap_map, slotNames_declaredWithout, List.filterMap_filter]
  refine List.filterMap_congr fun name _ => ?_
  show Member.filter? (isExcluded { ignored, headerBase }) (slot (numbered owner owner.name name
    (namedNodes nodes name))) = _
  -- a name that is meant takes its whole slot away, so the numbers in the other slots stay
  cases hnamed : namesDeclared ignored owner name with
  | true =>
      refine (Member.filter?_eq_none_iff _ _).mpr fun f hf => ?_
      rw [leaves_slot] at hf
      rw [isExcluded_numbered hf, hnamed, Bool.true_or]
  | false =>
      rw [if_pos (Bool.not_false), Function.comp_apply, namedNodes_declaredWithout hnamed]
      refine Member.filter?_congr _ fun f hf => ?_
      rw [leaves_slot] at hf
      rw [isExcluded_numbered hf, hnamed, Bool.false_or]

/-- So are the functions of one name. -/
lemma filter_numbered_declaredWithout (ignored : List String) (headerBase : Option String)
    (owner : Owner) (nodes : List Element) (name : String) :
    (numbered owner owner.name name (namedNodes nodes name)).filter
        (! isExcluded { ignored, headerBase } ·)
      = (numbered owner owner.name name
          (namedNodes (declaredWithout ignored owner nodes) name)).filter
        (! isExcluded { headerBase } ·) := by
  cases hnamed : namesDeclared ignored owner name with
  | true =>
      rw [namedNodes_eq_nil hnamed]
      refine List.filter_eq_nil_iff.mpr fun f hf => ?_
      rw [isExcluded_numbered hf, hnamed]
      simp
  | false =>
      rw [namedNodes_declaredWithout hnamed]
      refine List.filter_congr fun f hf => ?_
      rw [isExcluded_numbered hf, hnamed, Bool.false_or]

/-! ### Classes and namespaces without some names -/

/-- The names of a list mean the same functions of a class in whatever namespace it is. -/
lemma declaredWithout_ofClass (ignored : List String) (library : Option String)
    (source : ClassSource) : (source.without ignored).members
      = declaredWithout ignored (.ofClass source.name library) source.members := rfl

/-- The same members of a class are kept. -/
lemma keptSlots_without (ignored : List String) (headerBase library : Option String)
    (source : ClassSource) :
    keptSlots { ignored, headerBase } (ClassDecl.ofSource library source).members
      = keptSlots { headerBase } (ClassDecl.ofSource library (source.without ignored)).members := by
  rw [members_ofSource, members_ofSource, declaredWithout_ofClass ignored library]
  exact keptSlots_declaredWithout ignored headerBase (.ofClass source.name library) source.members

/-- So are the same constructors. -/
lemma keptConstructors_without (ignored : List String) (headerBase library : Option String)
    (source : ClassSource) :
    keptConstructors { ignored, headerBase } (ClassDecl.ofSource library source)
      = keptConstructors { headerBase }
        (ClassDecl.ofSource library (source.without ignored)) := by
  rw [keptConstructors, keptConstructors, constructors_ofSource, constructors_ofSource,
    declaredWithout_ofClass ignored library]
  exact filter_numbered_declaredWithout ignored headerBase (.ofClass source.name library)
    source.members source.name

/-- So the file of the class is the same. -/
lemma keptClassFile_without (ignored : List String) (headerBase library : Option String)
    (source : ClassSource) :
    keptClassFile { ignored, headerBase } (ClassDecl.ofSource library source)
      = keptClassFile { headerBase }
        (ClassDecl.ofSource library (source.without ignored)) := by
  have hfile : ClassFile.ofKept { ignored, headerBase } (ClassDecl.ofSource library source)
      = ClassFile.ofKept { headerBase }
        (ClassDecl.ofSource library (source.without ignored)) := by
    rw [ClassFile.ofKept, ClassFile.ofKept, keptSlots_without, keptConstructors_without]
    rfl
  rw [keptClassFile, keptClassFile, hfile]
  rfl

/-- **Ignoring is not declaring.** The bindings of a namespace under a list of names to ignore are,
file by file, those of the namespace without the members and the free functions that the list
means. -/
theorem preview_ignored (ignored : List String) (headerBase : Option String) (name : String)
    (classes : List ClassSource) (functions : List Element) :
    let n := NamespaceDecl.ofSources name classes functions
    let rest := NamespaceDecl.ofSources name (classes.map (·.without ignored))
      (declaredWithout ignored (.ofNamespace name) functions)
    ∃ files,
      preview { ignored, headerBase } (boundTo { ignored, headerBase } n).1
          (boundTo { ignored, headerBase } n).2 n = .ok files
        ∧ preview { headerBase } (boundTo { headerBase } rest).1
          (boundTo { headerBase } rest).2 rest = .ok files := by
  intro n rest
  have hslots : keptSlots { ignored, headerBase } n.functions
      = keptSlots { headerBase } rest.functions := by
    rw [functions_ofSources, functions_ofSources]
    exact keptSlots_declaredWithout ignored headerBase (.ofNamespace name) functions
  have hclasses : n.classes.map (keptClassFile { ignored, headerBase })
      = rest.classes.map (keptClassFile { headerBase }) := by
    show (classes.map _).map _ = ((classes.map _).map _).map _
    rw [List.map_map, List.map_map, List.map_map]
    exact List.map_congr_left fun source _ => keptClassFile_without ignored headerBase _ source
  have hnamespace : keptNamespaceFile? { ignored, headerBase } n
      = keptNamespaceFile? { headerBase } rest := by
    simp only [keptNamespaceFile?, NamespaceFile.ofKept, hslots]
    rfl
  have hfiles : keptFiles { ignored, headerBase } n = keptFiles { headerBase } rest := by
    rw [keptFiles, keptFiles, hclasses, hnamespace]
  exact ⟨_, preview_boundTo _ n, hfiles ▸ preview_boundTo _ rest⟩

end Lua

end LuaBinder
