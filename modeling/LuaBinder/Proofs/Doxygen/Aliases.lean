import LuaBinder.Proofs.Doxygen.Requirements
import LuaBinder.Proofs.Text.Segments

/-!
Which class a type definition gives its name to.

A type definition names a further constructor of a class. The class is found by the last segment of
the defined type, so a type of another namespace is mistaken for a class that ends in the same word.
Types and names are those of the definitions as they are read, whatever reads them.

* `getElem?_foldl_resolveAlias`: the aliases of a class are the names of the type definitions whose
  types end in its name, in document order; a class behind another one of its name has none.
* `Means`: a type is exactly the name of a class, or its full name.
* `aliases_exact_iff`: names go to the classes that the types mean exactly when no type ends in the
  name of a class that it does not mean, type definitions of one name taken together.
-/

namespace LuaBinder.Doxygen

open Store Text

/-! ### Type definitions -/

/-- The type definitions of a namespace, in document order. -/
def typedefs (definition : Element) : List Element := memberDefs definition "typedef"

/-- The name that a type definition introduces. -/
def aliasName (typedef : Element) : String := trim (typedef.childText "name")

/-- The type that a type definition stands for. -/
def aliasType (typedef : Element) : String := trim (typedef.childText "type")

/-- The names of the type definitions whose types end in a segment, in document order. -/
def aliasesOf (typedefs : List Element) (segment : String) : List String :=
  (typedefs.filter fun e => lastName (aliasType e) = segment).map aliasName

/-- The full name of a class. -/
def fullName (c : ClassDecl) : String := trim (c.node.childText "compoundname")

/-- The type is exactly the class, by its name or by its full name. -/
def Means (type : String) (c : ClassDecl) : Prop := type = c.name ∨ type = fullName c

instance (type : String) (c : ClassDecl) : Decidable (Means type c) :=
  inferInstanceAs (Decidable (type = c.name ∨ type = fullName c))

/-! ### Aliases of a class -/

lemma aliasesOf_cons (e : Element) (typedefs : List Element) (segment : String) :
    aliasesOf (e :: typedefs) segment = if lastName (aliasType e) = segment
      then aliasName e :: aliasesOf typedefs segment else aliasesOf typedefs segment := by
  rw [aliasesOf, List.filter_cons]
  by_cases h : lastName (aliasType e) = segment
  · rw [if_pos h, if_pos (decide_eq_true h), List.map_cons]
    rfl
  · rw [if_neg h, if_neg (by simpa using h)]
    rfl

lemma mem_aliasesOf_iff {typedefs : List Element} {segment name : String} :
    name ∈ aliasesOf typedefs segment
      ↔ ∃ e ∈ typedefs, lastName (aliasType e) = segment ∧ aliasName e = name := by
  simp [aliasesOf, and_assoc]

/-- The name goes to the first class of the target name. -/
lemma getElem?_addAlias (target name : String) (classes : List ClassSource) (i : Nat) :
    (addAlias target name classes)[i]? = classes[i]?.map fun c =>
      if c.name = target ∧ target ∉ (classes.take i).map (·.name)
      then { c with aliases := c.aliases ++ [name] } else c := by
  induction classes generalizing i with
  | nil => rfl
  | cons c cs ih =>
      rw [addAlias]
      cases i with
      | zero =>
          split
          · next h => simp [beq_iff_eq.mp h]
          · next h => simp [show c.name ≠ target by simpa using h]
      | succ i =>
          rw [List.getElem?_cons_succ, List.take_succ_cons, List.map_cons]
          split
          · next h =>
              -- a class further on is not the first of this name
              rw [beq_iff_eq] at h
              have hnot : ∀ d : ClassSource,
                  ¬ (d.name = target ∧ target ∉ c.name :: (cs.take i).map (·.name)) :=
                fun d hd => hd.2 (h ▸ List.mem_cons_self)
              simp only [hnot, if_false, List.getElem?_cons_succ, Option.map_id']
          · next h =>
              have hne : target ≠ c.name := fun heq => h (beq_iff_eq.mpr heq.symm)
              rw [List.getElem?_cons_succ, ih]
              simp only [List.mem_cons, hne, false_or]

/-- A class takes the names of all type definitions whose types end in its name, unless a class
before it has the same name. -/
lemma getElem?_foldl_resolveAlias (typedefs : List Element) (classes : List ClassSource) (i : Nat) :
    (typedefs.foldl resolveAlias classes)[i]? = classes[i]?.map fun c =>
      if c.name ∈ (classes.take i).map (·.name) then c
      else { c with aliases := c.aliases ++ aliasesOf typedefs c.name } := by
  induction typedefs generalizing classes with
  | nil => simp [aliasesOf]
  | cons e typedefs ih =>
      have hnames : ((resolveAlias classes e).take i).map (·.name)
          = (classes.take i).map (·.name) := by
        rw [List.map_take, List.map_take, resolveAlias, map_addAlias fun _ _ => rfl]
      have htarget : shortName (e.childText "type") = lastName (aliasType e) := rfl
      rw [List.foldl_cons, ih, hnames, resolveAlias, getElem?_addAlias, Option.map_map, htarget]
      refine Option.map_congr fun c _ => ?_
      rw [Function.comp_apply]
      by_cases hfirst : c.name ∈ (classes.take i).map (·.name)
      · have hgoes : ¬ (c.name = lastName (aliasType e)
            ∧ lastName (aliasType e) ∉ (classes.take i).map (·.name)) :=
          fun h => h.2 (h.1 ▸ hfirst)
        rw [if_neg hgoes, if_pos hfirst, if_pos hfirst]
      · rw [if_neg hfirst]
        by_cases hname : c.name = lastName (aliasType e)
        · have hgoes : c.name = lastName (aliasType e)
              ∧ lastName (aliasType e) ∉ (classes.take i).map (·.name) := ⟨hname, hname ▸ hfirst⟩
          rw [if_pos hgoes, aliasesOf_cons, if_pos hname.symm,
            List.append_cons c.aliases (aliasName e)]
          exact if_neg hfirst
        · have hgoes : ¬ (c.name = lastName (aliasType e)
              ∧ lastName (aliasType e) ∉ (classes.take i).map (·.name)) := fun h => hname h.1
          rw [if_neg hgoes, if_neg hfirst, aliasesOf_cons, if_neg (Ne.symm hname)]

/-! ### Classes of a namespace -/

/-- The first class of a name is the one with no class of this name before it. -/
lemma class?_eq_some_iff {n : NamespaceDecl} {name : String} {c : ClassDecl} :
    n.class? name = some c ↔ ∃ i, n.classes[i]? = some c ∧ c.name = name
      ∧ c.name ∉ (n.classes.take i).map (·.name) := by
  rw [NamespaceDecl.class?, List.find?_eq_some_iff_append, beq_iff_eq]
  constructor
  · rintro ⟨hname, before, after, heq, hbefore⟩
    refine ⟨before.length, ?_, hname, ?_⟩
    · rw [heq, List.getElem?_append_right le_rfl, Nat.sub_self]
      rfl
    · rw [heq, List.take_left, List.mem_map]
      rintro ⟨b, hb, hsame⟩
      have hne := hbefore b hb
      rw [hsame, hname] at hne
      simp at hne
  · rintro ⟨i, hget, hname, hfirst⟩
    obtain ⟨hi, rfl⟩ := List.getElem?_eq_some_iff.mp hget
    refine ⟨hname, n.classes.take i, n.classes.drop (i + 1), ?_, fun b hb => ?_⟩
    · rw [List.getElem_cons_drop, List.take_append_drop]
    · have hne : b.name ≠ name := fun hsame =>
        hfirst (List.mem_map.mpr ⟨b, hb, hsame.trans hname.symm⟩)
      simpa using hne

section Loaded

variable {own : String} {definition : Element} {definitions : List Element} {i : Nat}
  {c : ClassDecl}

lemma names_take_namespaceOf (i : Nat) :
    ((namespaceOf own definition definitions).classes.take i).map (·.name)
      = ((definitions.filterMap classOf?).take i).map (·.name) := by
  rw [List.map_take, List.map_take,
    ← map_foldl_resolveAlias (fun _ _ => rfl) (memberDefs definition "typedef")]
  exact congrArg (List.take i) List.map_map

lemma aliases_of_classOf? {d : Element} {source : ClassSource} (h : classOf? d = some source) :
    source.aliases = [] := by
  rw [classOf?] at h
  split at h
  · cases h
  · rw [← Option.some.inj h]

/-- The name of a class is the last segment of its full name, and its aliases are those of this
segment if it is the first class of its name. -/
lemma class_namespaceOf (h : (namespaceOf own definition definitions).classes[i]? = some c) :
    c.name = lastName (fullName c) ∧ c.aliases
      = if c.name ∈ ((namespaceOf own definition definitions).classes.take i).map (·.name) then []
        else aliasesOf (typedefs definition) c.name := by
  have hclasses : (namespaceOf own definition definitions).classes[i]?
      = ((definitions.filterMap classOf?)[i]?.map fun c =>
        if c.name ∈ ((definitions.filterMap classOf?).take i).map (·.name) then c
        else { c with aliases := c.aliases ++ aliasesOf (typedefs definition) c.name }).map
          (ClassDecl.ofSource (some own)) := by
    rw [← getElem?_foldl_resolveAlias, ← List.getElem?_map]
    rfl
  rw [hclasses] at h
  obtain ⟨attached, hattached, rfl⟩ := Option.map_eq_some_iff.mp h
  obtain ⟨source, hsource, rfl⟩ := Option.map_eq_some_iff.mp hattached
  obtain ⟨d, -, hd⟩ := List.mem_filterMap.mp (List.mem_of_getElem? hsource)
  have hdescribes := describesClass_of_classOf? hd
  have hname : source.name = lastName (trim (source.node.childText "compoundname")) := by
    rw [hdescribes.node, childText_withoutSections (by decide)]
    exact hdescribes.name
  rw [names_take_namespaceOf]
  by_cases hbefore : source.name ∈ ((definitions.filterMap classOf?).take i).map (·.name)
  · rw [if_pos hbefore]
    refine ⟨hname, (aliases_of_classOf? hd).trans (if_pos hbefore).symm⟩
  · rw [if_neg hbefore, aliases_of_classOf? hd]
    refine ⟨hname, (if_neg hbefore).symm⟩

end Loaded

/-! ### Names that go where the types mean -/

variable {fs : FileSystem} {root : String} {name : Option String} {n : NamespaceDecl}

/-- A class that a type means has the last segment of the type as its name. -/
lemma lastName_of_means {type : String} {c : ClassDecl} (hname : c.name = lastName (fullName c))
    (h : Means type c) : lastName type = c.name := by
  rcases h with rfl | rfl
  · conv_rhs => rw [hname]
    rw [hname, lastName_lastName]
  · exact hname.symm

/-- **Aliases.** The aliases of a class of a loaded namespace are the names of the type definitions
whose types end in the name of the class, in document order, and a class behind another one of its
name has none. Every name goes to the first class that the type is exactly, and to no other one,
exactly when the types of all type definitions of a name are exactly the class that one of them ends
in. -/
theorem aliases_exact_iff (h : loadNamespace fs root name = .ok n) :
    ∃ entry definition definitions, LoadsFrom fs root name entry definition definitions
      ∧ (∀ i c, n.classes[i]? = some c → c.aliases
        = if c.name ∈ (n.classes.take i).map (·.name) then []
          else aliasesOf (typedefs definition) c.name)
      ∧ ((∀ e ∈ typedefs definition, ∀ i c, n.classes[i]? = some c → (aliasName e ∈ c.aliases
          ↔ c.name ∉ (n.classes.take i).map (·.name) ∧ Means (aliasType e) c))
        ↔ ∀ e ∈ typedefs definition, ∀ e' ∈ typedefs definition, aliasName e = aliasName e' →
          ∀ c, n.class? (lastName (aliasType e')) = some c → Means (aliasType e) c) := by
  obtain ⟨entry, definition, definitions, hfrom, rfl⟩ := loadNamespace_eq_ok_iff.mp h
  refine ⟨entry, definition, definitions, hfrom, fun i c hc => (class_namespaceOf hc).2, ?_, ?_⟩
  · intro hall e he e' he' hsame c hc
    obtain ⟨i, hi, hname, hfirst⟩ := class?_eq_some_iff.mp hc
    refine ((hall e he i c hi).mp ?_).2
    rw [(class_namespaceOf hi).2, if_neg hfirst, mem_aliasesOf_iff]
    exact ⟨e', he', hname.symm, hsame.symm⟩
  · intro hall e he i c hi
    obtain ⟨hname, haliases⟩ := class_namespaceOf hi
    rw [haliases]
    split
    · next hbefore => exact iff_of_false List.not_mem_nil fun hboth => hboth.1 hbefore
    · next hfirst =>
        rw [mem_aliasesOf_iff, and_iff_right hfirst]
        constructor
        · rintro ⟨e', he', hsegment, hsame⟩
          exact hall e he e' he' hsame.symm c
            (class?_eq_some_iff.mpr ⟨i, hi, hsegment.symm, hfirst⟩)
        · intro hmeans
          exact ⟨e, he, lastName_of_means hname hmeans, rfl⟩

/-- A namespace with the class `Foo` and the given types under the given names. -/
def aliasDirectory (types : List (String × String)) : FileSystem where
  entries := [
    (["xml"], .directory),
    (["xml", "index.xml"], .file <| String.toUTF8 <|
      "<doxygenindex><compound refid=\"lib\" kind=\"namespace\"><name>lib</name></compound>"
        ++ "</doxygenindex>"),
    (["xml", "lib.xml"], .file <| String.toUTF8 <|
      "<doxygen><compounddef><innerclass refid=\"foo\"/><sectiondef>"
        ++ String.join (types.map fun (type, name) =>
          "<memberdef kind=\"typedef\"><type>" ++ type ++ "</type><name>" ++ name
            ++ "</name></memberdef>")
        ++ "</sectiondef></compounddef></doxygen>"),
    (["xml", "foo.xml"], .file <| String.toUTF8 <|
      "<doxygen><compounddef><compoundname>lib::Foo</compoundname></compounddef></doxygen>")]

/-- Both spellings of a class give it a name, in document order. -/
theorem aliases_exact_foo :
    ∃ n, loadNamespace (aliasDirectory [("Foo", "Near"), ("lib::Foo", "Far")]) "xml" (some "lib")
        = .ok n
      ∧ n.classes.map (·.aliases) = [["Near", "Far"]]
      ∧ ∃ entry definition definitions,
        LoadsFrom (aliasDirectory [("Foo", "Near"), ("lib::Foo", "Far")]) "xml" (some "lib")
            entry definition definitions
          ∧ ∀ e ∈ typedefs definition, ∀ i c, n.classes[i]? = some c → (aliasName e ∈ c.aliases
            ↔ c.name ∉ (n.classes.take i).map (·.name) ∧ Means (aliasType e) c) := by
  have hindexed : ∃ entries,
      index (aliasDirectory [("Foo", "Near"), ("lib::Foo", "Far")]) "xml" = .ok entries
        ∧ findNamespace? (some "lib") entries = some ⟨"lib", "namespace", "lib"⟩ :=
    exists_eq_ok_of_any (by decide +kernel)
  have hread : ∃ read : Element × Element,
      ((compound (aliasDirectory [("Foo", "Near"), ("lib::Foo", "Far")]) "xml" "lib").bind fun d =>
        (compound (aliasDirectory [("Foo", "Near"), ("lib::Foo", "Far")]) "xml" "foo").map (d, ·))
          = .ok read
        ∧ innerClasses read.1 = ["foo"]
        ∧ (namespaceOf "lib" read.1 [read.2]).classes.map (·.aliases) = [["Near", "Far"]]
        ∧ (∀ c ∈ (namespaceOf "lib" read.1 [read.2]).classes, Means "Foo" c ∧ Means "lib::Foo" c)
        ∧ ∀ e ∈ typedefs read.1, aliasType e = "Foo" ∨ aliasType e = "lib::Foo" :=
    exists_eq_ok_of_any (by decide +kernel)
  obtain ⟨d, foo, hloads, -, haliases, hmeans, htypes⟩ := exists_loadsFrom_of_read hindexed hread
  have hload := loadNamespace_eq_ok_iff.mpr ⟨_, d, [foo], hloads, rfl⟩
  obtain ⟨entry, definition, definitions, hfrom, -, hiff⟩ := aliases_exact_iff hload
  refine ⟨_, hload, haliases, entry, definition, definitions, hfrom,
    hiff.mpr fun e he e' he' _ c hc => ?_⟩
  obtain ⟨-, rfl, -⟩ := hloads.unique hfrom
  have hclass := hmeans c (List.mem_of_find?_eq_some hc)
  rcases htypes e he with htype | htype
  · rw [htype]
    exact hclass.1
  · rw [htype]
    exact hclass.2

/-- A class of another namespace gives its name to the class of the same last segment. -/
theorem alias_of_other_foo :
    ∃ n, loadNamespace (aliasDirectory [("other::Foo", "Bar")]) "xml" (some "lib") = .ok n
      ∧ n.classes.map (fun c => (c.name, fullName c)) = [("Foo", "lib::Foo")]
      ∧ ∀ c ∈ n.classes, "Bar" ∈ c.aliases ∧ ¬ Means "other::Foo" c :=
  exists_eq_ok_of_any (by decide +kernel)

end LuaBinder.Doxygen
