import Mathlib.Data.List.Forall2
import LuaBinder.Doxygen.Directory
import LuaBinder.Proofs.Except

/-!
What a namespace is loaded from, and what is made of it.

The statements here and in the modules on loaded directories start from documents that are read.
They use nothing of the reader: `parseDocument?` may take a text for any element, or for none, and
they hold all the same. Only the examples, which are directories with texts in them, run it.

* `LoadsFrom`: the entry of the index and the definitions that a namespace is loaded from.
* `loadNamespace_eq_ok_iff`: a namespace is loaded exactly when all of these can be read, and it is
  then `namespaceOf` them.
* `map_foldl_resolveAlias`: type aliases change nothing of a class but its aliases.
* `children_withoutSections`: a definition without its sections keeps its other children.
-/

namespace LuaBinder.Doxygen

open Store

/-! ### Classes -/

variable {fs : FileSystem} {root : String}

/-- The classes of some compounds are those that their definitions describe, in order. -/
lemma loadClasses_eq_ok_iff {refids : List String} {classes : List ClassSource} :
    loadClasses fs root refids = .ok classes ↔
      ∃ definitions, List.Forall₂ (fun refid d => compound fs root refid = .ok d) refids definitions
        ∧ definitions.filterMap classOf? = classes := by
  induction refids generalizing classes with
  | nil =>
      simp only [loadClasses, List.forall₂_nil_left_iff, exists_eq_left, List.filterMap_nil,
        Except.ok.injEq]
  | cons refid refids ih =>
      simp only [loadClasses, bind_eq_ok_iff, ih, List.forall₂_cons_left_iff]
      constructor
      · rintro ⟨d, hd, rest, ⟨definitions, hall, rfl⟩, h⟩
        refine ⟨d :: definitions, ⟨d, definitions, hd, hall, rfl⟩, ?_⟩
        rw [← Except.ok.inj h]
        cases hclass : classOf? d <;> simp [hclass]
      · rintro ⟨_, ⟨d, definitions, hd, hall, rfl⟩, rfl⟩
        refine ⟨d, hd, _, ⟨definitions, hall, rfl⟩, congrArg Except.ok ?_⟩
        cases hclass : classOf? d <;> simp [hclass]

/-! ### Aliases -/

variable {β : Type} {f : ClassSource → β}

/-- An alias changes nothing of a class but its aliases. -/
lemma map_addAlias (hf : ∀ c aliases, f { c with aliases } = f c) (target name : String)
    (classes : List ClassSource) : (addAlias target name classes).map f = classes.map f := by
  induction classes with
  | nil => rfl
  | cons c cs ih =>
      rw [addAlias]
      split
      · rw [List.map_cons, List.map_cons, hf]
      · rw [List.map_cons, List.map_cons, ih]

/-- Neither do all aliases of a namespace. -/
lemma map_foldl_resolveAlias (hf : ∀ c aliases, f { c with aliases } = f c)
    (typedefs : List Element) (classes : List ClassSource) :
    (typedefs.foldl resolveAlias classes).map f = classes.map f := by
  induction typedefs generalizing classes with
  | nil => rfl
  | cons typedef typedefs ih => rw [List.foldl_cons, ih, resolveAlias, map_addAlias hf]

/-! ### Namespaces -/

/-- What a namespace is loaded from: its entry in the index, its definition, and the definitions of
its public classes in order. -/
structure LoadsFrom (fs : FileSystem) (root : String) (name : Option String)
    (entry : CompoundEntry) (definition : Element) (definitions : List Element) : Prop where
  indexed : ∃ entries, index fs root = .ok entries ∧ findNamespace? name entries = some entry
  own : compound fs root entry.refid = .ok definition
  inner : List.Forall₂ (fun refid d => compound fs root refid = .ok d)
    (innerClasses definition) definitions

/-- A namespace is loaded from one entry and one list of definitions. -/
lemma LoadsFrom.unique {name : Option String} {entry entry' : CompoundEntry}
    {definition definition' : Element} {definitions definitions' : List Element}
    (h : LoadsFrom fs root name entry definition definitions)
    (h' : LoadsFrom fs root name entry' definition' definitions') :
    entry = entry' ∧ definition = definition' ∧ definitions = definitions' := by
  obtain ⟨entries, hentries, hfound⟩ := h.indexed
  obtain ⟨entries', hentries', hfound'⟩ := h'.indexed
  obtain rfl := Except.ok.inj (hentries.symm.trans hentries')
  obtain rfl := Option.some.inj (hfound.symm.trans hfound')
  obtain rfl := Except.ok.inj (h.own.symm.trans h'.own)
  have hunique : Relator.RightUnique fun refid d => compound fs root refid = .ok d :=
    fun _ _ _ hd hd' => Except.ok.inj (hd.symm.trans hd')
  exact ⟨rfl, rfl, List.right_unique_forall₂' hunique h.inner h'.inner⟩

/-- What a namespace with one public class is loaded from, where both documents are read at once. -/
lemma exists_loadsFrom_of_read {name : Option String} {entry : CompoundEntry} {inner : String}
    {P : Element × Element → Prop}
    (hindexed : ∃ entries, index fs root = .ok entries ∧ findNamespace? name entries = some entry)
    (hread : ∃ read : Element × Element, ((compound fs root entry.refid).bind fun definition =>
        (compound fs root inner).map (definition, ·)) = .ok read
      ∧ innerClasses read.1 = [inner] ∧ P read) :
    ∃ definition d, LoadsFrom fs root name entry definition [d]
      ∧ compound fs root inner = .ok d ∧ P (definition, d) := by
  obtain ⟨read, hboth, hinner, hP⟩ := hread
  obtain ⟨definition, hown, hmap⟩ := bind_eq_ok_iff.mp hboth
  obtain ⟨d, hd, rfl⟩ := map_eq_ok_iff.mp hmap
  exact ⟨definition, d, ⟨hindexed, hown, hinner ▸ .cons hd .nil⟩, hd, hP⟩

/-- The namespace that a definition and the definitions of its classes describe. -/
def namespaceOf (name : String) (definition : Element) (definitions : List Element) :
    NamespaceDecl :=
  .ofSources name
    ((memberDefs definition "typedef").foldl resolveAlias (definitions.filterMap classOf?))
    (publicFunctions definition)

/-- A namespace is loaded exactly when all that it is loaded from can be read. -/
lemma loadNamespace_eq_ok_iff {name : Option String} {n : NamespaceDecl} :
    loadNamespace fs root name = .ok n ↔ ∃ entry definition definitions,
      LoadsFrom fs root name entry definition definitions
        ∧ namespaceOf entry.name definition definitions = n := by
  rw [loadNamespace, bind_eq_ok_iff]
  constructor
  · rintro ⟨entries, hentries, h⟩
    cases hentry : findNamespace? name entries with
    | none =>
        rw [hentry] at h
        cases h
    | some entry =>
        rw [hentry] at h
        obtain ⟨definition, hdefinition, h⟩ := bind_eq_ok_iff.mp h
        obtain ⟨classes, hclasses, h⟩ := bind_eq_ok_iff.mp h
        obtain ⟨definitions, hall, rfl⟩ := loadClasses_eq_ok_iff.mp hclasses
        exact ⟨entry, definition, definitions, ⟨⟨entries, hentries, hentry⟩, hdefinition, hall⟩,
          Except.ok.inj h⟩
  · rintro ⟨entry, definition, definitions, ⟨⟨entries, hentries, hentry⟩, hdefinition, hall⟩, rfl⟩
    refine ⟨entries, hentries, ?_⟩
    rw [hentry]
    exact bind_eq_ok_iff.mpr ⟨definition, hdefinition, bind_eq_ok_iff.mpr
      ⟨_, loadClasses_eq_ok_iff.mpr ⟨definitions, hall, rfl⟩, rfl⟩⟩

/-! ### Sections -/

/-- A definition without its sections keeps its other children. -/
lemma children_withoutSections {tag : String} (h : tag ≠ "sectiondef") (e : Element) :
    (withoutSections e).children tag = e.children tag := by
  rw [Element.children, Element.elements, withoutSections, List.filterMap_filter,
    List.filter_filterMap, Element.children, Element.elements, List.filter_filterMap]
  -- only a section can be dropped, and it has another tag
  refine List.filterMap_congr fun m _ => ?_
  cases m with
  | text run => rfl
  | element t attributes content =>
      by_cases ht : t = "sectiondef"
      · simp [Markup.element?, Option.filter, ht, Ne.symm h]
      · simp [Markup.element?, ht]

lemma childText_withoutSections {tag : String} (h : tag ≠ "sectiondef") (e : Element) :
    (withoutSections e).childText tag = e.childText tag := by
  rw [Element.childText, Element.childText, Element.child?, Element.child?,
    children_withoutSections h]

end LuaBinder.Doxygen
