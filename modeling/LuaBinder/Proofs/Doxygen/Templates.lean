import LuaBinder.Proofs.Doxygen.Loading
import LuaBinder.Proofs.Text.Segments

/-!
Which class templates a loaded namespace leaves out.

A template shows its arguments in angle brackets behind its name, and it is left out when a bracket
stands in the last segment of the whole. A qualified argument moves that segment into the brackets.
The names are those of the definitions as they are read, whatever reads them.

* `contains_shortName_iff`: an opening bracket stands in the last segment exactly when no qualifier
  follows some opening bracket.
* `templates_skipped_iff`: no template is left in a namespace exactly when every template among its
  public classes has such a bracket.
* `template_loaded_string`: with a qualified argument, a template becomes a class.
-/

namespace LuaBinder.Doxygen

open Store Text

/-! ### Templates -/

/-- A definition of a class template: its name shows template arguments. -/
def IsTemplate (definition : Element) : Prop :=
  '<' ∈ (definition.childText "compoundname").toList

instance (definition : Element) : Decidable (IsTemplate definition) :=
  inferInstanceAs (Decidable (_ ∈ _))

/-- Some argument list of a name is opened without a qualifier behind it. -/
def OpensLast (name : String) : Prop := Unfollowed "::".toList '<' name.toList

/-- The last segment of a name opens an argument list exactly when no qualifier follows some place
where one is opened. -/
lemma contains_shortName_iff (name : String) :
    (shortName name).toList.contains '<' = true ↔ OpensLast name := by
  have htrim : (trim name).toList = trimChars name.toList := String.toList_ofList
  have hbracket : '<' ∉ "::".toList := by simp
  have hqualifier : "::".toList ≠ [] := by simp
  have hblank : ∀ c ∈ "::".toList, isBlank c = false := by simp [isBlank]
  rw [List.contains_iff_mem, shortName, lastName, mem_afterLast_iff hbracket, htrim,
    unfollowed_trimChars rfl hqualifier hblank, OpensLast]

/-- A definition describes a class exactly when its last segment opens no argument list. -/
lemma classOf?_isSome_iff (d : Element) :
    (classOf? d).isSome = true ↔ ¬ OpensLast (d.childText "compoundname") := by
  rw [← contains_shortName_iff, classOf?]
  cases (shortName (d.childText "compoundname")).toList.contains '<' <;> simp

lemma node_of_classOf? {d : Element} {c : ClassSource} (h : classOf? d = some c) :
    c.node = withoutSections d := by
  rw [classOf?] at h
  split at h
  · cases h
  · rw [← Option.some.inj h]

lemma isTemplate_withoutSections (d : Element) : IsTemplate (withoutSections d) ↔ IsTemplate d := by
  rw [IsTemplate, IsTemplate, childText_withoutSections (by decide)]

/-! ### One template -/

/-- A namespace with the class `Point` and an instance of the template `Box`. -/
def boxDirectory (argument : String) : FileSystem where
  entries := [
    (["xml"], .directory),
    (["xml", "index.xml"], .file <| String.toUTF8 <|
      "<doxygenindex><compound refid=\"lib\" kind=\"namespace\"><name>lib</name></compound>"
        ++ "</doxygenindex>"),
    (["xml", "lib.xml"], .file <| String.toUTF8 <|
      "<doxygen><compounddef><innerclass refid=\"point\"/><innerclass refid=\"box\"/>"
        ++ "</compounddef></doxygen>"),
    (["xml", "point.xml"], .file <| String.toUTF8 <|
      "<doxygen><compounddef><compoundname>lib::Point</compoundname></compounddef></doxygen>"),
    (["xml", "box.xml"], .file <| String.toUTF8 <|
      "<doxygen><compounddef><compoundname>lib::Box&lt; " ++ argument
        ++ " &gt;</compoundname></compounddef></doxygen>")]

/-! ### Loaded namespaces -/

/-- The classes of a namespace show the definitions that describe a class, in order. -/
lemma nodes_namespaceOf (name : String) (definition : Element) (definitions : List Element) :
    (namespaceOf name definition definitions).classes.map (·.node)
      = (definitions.filter fun d => (classOf? d).isSome).map withoutSections := by
  have hofSources : (namespaceOf name definition definitions).classes.map (·.node)
      = ((memberDefs definition "typedef").foldl resolveAlias
          (definitions.filterMap classOf?)).map (·.node) := List.map_map
  rw [hofSources, map_foldl_resolveAlias fun _ _ => rfl]
  clear hofSources
  induction definitions with
  | nil => rfl
  | cons d definitions ih =>
      cases hclass : classOf? d with
      | none => simpa [hclass] using ih
      | some c => simpa [hclass, node_of_classOf? hclass] using ih

variable {fs : FileSystem} {root : String} {name : Option String} {n : NamespaceDecl}

/-- The classes of a loaded namespace stem from definitions of its public classes. A template is
among them exactly when a qualifier follows every place where the name of some template opens an
argument list. -/
theorem templates_skipped_iff (h : loadNamespace fs root name = .ok n) :
    ∃ entry definition definitions, LoadsFrom fs root name entry definition definitions
      ∧ (∀ c ∈ n.classes, ∃ d ∈ definitions, c.node = withoutSections d)
      ∧ ((∀ c ∈ n.classes, ¬ IsTemplate c.node)
        ↔ ∀ d ∈ definitions, IsTemplate d → OpensLast (d.childText "compoundname")) := by
  obtain ⟨entry, definition, definitions, hfrom, rfl⟩ := loadNamespace_eq_ok_iff.mp h
  have hnode : ∀ node, node ∈ (namespaceOf entry.name definition definitions).classes.map (·.node)
      ↔ ∃ d ∈ definitions, ¬ OpensLast (d.childText "compoundname") ∧ withoutSections d = node := by
    intro node
    simp only [nodes_namespaceOf, List.mem_map, List.mem_filter, classOf?_isSome_iff, and_assoc]
  refine ⟨entry, definition, definitions, hfrom, ?_, ?_⟩
  · intro c hc
    obtain ⟨d, hd, -, heq⟩ := (hnode c.node).mp (List.mem_map_of_mem hc)
    exact ⟨d, hd, heq.symm⟩
  · constructor
    · intro hnone d hd htemplate
      by_contra hopens
      obtain ⟨c, hc, hcd⟩ := List.mem_map.mp ((hnode _).mpr ⟨d, hd, hopens, rfl⟩)
      exact hnone c hc (hcd ▸ (isTemplate_withoutSections d).mpr htemplate)
    · intro hopens c hc htemplate
      obtain ⟨d, hd, hnot, heq⟩ := (hnode c.node).mp (List.mem_map_of_mem hc)
      exact hnot (hopens d hd ((isTemplate_withoutSections d).mp (heq ▸ htemplate)))

/-- With the argument `int`, the bracket stands in the last segment and the template is left out. -/
theorem templates_skipped_int :
    ∃ n, loadNamespace (boxDirectory "int") "xml" (some "lib") = .ok n
      ∧ n.classes.map (·.name) = ["Point"]
      ∧ ∃ entry definition definitions,
        LoadsFrom (boxDirectory "int") "xml" (some "lib") entry definition definitions
          ∧ ∀ d ∈ definitions, IsTemplate d → OpensLast (d.childText "compoundname") := by
  obtain ⟨n, hload, hnames, hnone⟩ : ∃ n,
      loadNamespace (boxDirectory "int") "xml" (some "lib") = .ok n
        ∧ n.classes.map (·.name) = ["Point"] ∧ ∀ c ∈ n.classes, ¬ IsTemplate c.node :=
    exists_eq_ok_of_any (by decide +kernel)
  obtain ⟨entry, definition, definitions, hfrom, -, hiff⟩ := templates_skipped_iff hload
  exact ⟨n, hload, hnames, entry, definition, definitions, hfrom, hiff.mp hnone⟩

/-- With the argument `std::string`, the last segment is `string >` and the template becomes a
class of that name. -/
theorem template_loaded_string :
    ∃ n, loadNamespace (boxDirectory "std::string") "xml" (some "lib") = .ok n
      ∧ n.classes.map (·.name) = ["Point", "string >"] ∧ ∃ c ∈ n.classes, IsTemplate c.node :=
  exists_eq_ok_of_any (by decide +kernel)

end LuaBinder.Doxygen
