import LuaBinder.Proofs.Doxygen.Templates

/-!
What loading a namespace requires, what it gives, and what it reads.

A file is required to hold a document, which means that `parseDocument?` reads one from it. Which
texts these are is left open, and so is which element a text is read as.

* `Parses`, `Indexed`, `Defines`: the documents, the entry of the index and the definitions that a
  namespace is loaded from, without the functions that look for them.
* `Loadable`: everything that must be there.
* `Describes`, `DescribesClass`, `DeclaresFunctions`: what becomes of the definitions.
* `Needs`: the files that are read.
* `loading_exact`: a namespace is loaded exactly when all that it requires is there, as the
  definitions describe it, and no other file matters.
-/

namespace LuaBinder.Doxygen

open Store Text

/-! ### Documents -/

/-- The file at a path holds a document. -/
def Parses (fs : FileSystem) (path : String) (document : Element) : Prop :=
  ∃ text, fs.read? path = some text ∧ parseDocument? text = some document

/-- The first of some elements with a property. -/
def IsFirst (P : Element → Prop) (es : List Element) (e : Element) : Prop :=
  P e ∧ ∃ before after, es = before ++ e :: after ∧ ∀ other ∈ before, ¬ P other

/-- An entry of the index is a namespace with an identifier, of the name that is asked for. -/
structure IsAsked (name : Option String) (e : Element) : Prop where
  kind : e.attribute? "kind" = some "namespace"
  identified : ∃ refid, e.attribute? "refid" = some refid
  named : ∀ asked, name = some asked → trim (e.childText "name") = asked

/-- The index lists a namespace: the first of the name that is asked for, or the first of all. -/
def Indexed (fs : FileSystem) (root : String) (name : Option String) (refid own : String) : Prop :=
  ∃ document e, Parses fs (join root "index.xml") document
    ∧ IsFirst (IsAsked name) (document.children "compound") e
    ∧ e.attribute? "refid" = some refid ∧ trim (e.childText "name") = own

/-- The file of a compound holds its definition. -/
def Defines (fs : FileSystem) (root refid : String) (definition : Element) : Prop :=
  ∃ document rest, Parses fs (join root (refid ++ ".xml")) document
    ∧ document.children "compounddef" = definition :: rest

/-- A declaration is public unless it says something else. -/
def Public (e : Element) : Prop := ∀ prot, e.attribute? "prot" = some prot → prot = "public"

instance : DecidablePred Public := fun e =>
  inferInstanceAs (Decidable (∀ prot ∈ e.attribute? "prot", prot = "public"))

variable {fs fs' : FileSystem} {root path refid own : String} {name : Option String}
  {document definition e : Element}

lemma isPublic_iff : isPublic e = true ↔ Public e := by
  rw [isPublic, Public]
  cases e.attribute? "prot" <;> simp

lemma readDocument_eq_ok_iff : readDocument fs path = .ok document ↔ Parses fs path document := by
  rw [readDocument, Parses]
  cases hread : fs.read? path with
  | none => simp
  | some text => cases hparse : parseDocument? text <;> simp [hparse]

lemma compound_eq_ok_iff : compound fs root refid = .ok definition
    ↔ Defines fs root refid definition := by
  rw [compound, bind_eq_ok_iff]
  simp only [readDocument_eq_ok_iff, Element.child?]
  constructor
  · rintro ⟨document, hdocument, h⟩
    cases hchildren : document.children "compounddef" with
    | nil =>
        rw [hchildren] at h
        cases h
    | cons first rest =>
        rw [hchildren] at h
        cases h
        exact ⟨document, rest, hdocument, hchildren⟩
  · rintro ⟨document, rest, hdocument, hchildren⟩
    refine ⟨document, hdocument, ?_⟩
    rw [hchildren]
    rfl

/-! ### The index -/

lemma ofElement?_eq_some_iff {entry : CompoundEntry} : CompoundEntry.ofElement? e = some entry ↔
    e.attribute? "refid" = some entry.refid ∧ e.attribute? "kind" = some entry.kind
      ∧ trim (e.childText "name") = entry.name := by
  rw [CompoundEntry.ofElement?]
  obtain ⟨refid, kind, own⟩ := entry
  cases e.attribute? "refid" <;> cases e.attribute? "kind" <;> simp [eq_comm]

/-- The entry of an element is looked for exactly when the element is asked for. -/
lemma any_ofElement?_iff :
    ((CompoundEntry.ofElement? e).any fun entry =>
      decide ((entry.kind == "namespace") = true ∧ name.all (entry.name == ·) = true)) = true
        ↔ IsAsked name e := by
  simp only [Option.any_eq_true, decide_eq_true_eq, beq_iff_eq, Option.all_eq_true]
  constructor
  · rintro ⟨entry, hentry, h⟩
    obtain ⟨hrefid, hkind, hname⟩ := ofElement?_eq_some_iff.mp hentry
    exact ⟨h.1 ▸ hkind, ⟨_, hrefid⟩, fun asked hasked => hname.trans (h.2 asked hasked)⟩
  · rintro ⟨hkind, ⟨refid, hrefid⟩, hnamed⟩
    exact ⟨⟨refid, "namespace", trim (e.childText "name")⟩,
      ofElement?_eq_some_iff.mpr ⟨hrefid, hkind, rfl⟩, rfl, hnamed⟩

/-- The entry that is found is that of the first element that is asked for. -/
lemma findNamespace?_eq_some_iff {entry : CompoundEntry} {es : List Element} :
    findNamespace? name (es.filterMap CompoundEntry.ofElement?) = some entry ↔
      ∃ e, IsFirst (IsAsked name) es e ∧ CompoundEntry.ofElement? e = some entry := by
  rw [findNamespace?, namespaceEntries, List.find?_filter, List.find?_filterMap,
    Option.bind_eq_some_iff]
  simp only [List.find?_eq_some_iff_append, IsFirst, any_ofElement?_iff, Bool.not_eq_true',
    ← Bool.not_eq_true]

lemma index_eq_ok_iff {entries : List CompoundEntry} : index fs root = .ok entries ↔
    ∃ document, Parses fs (join root "index.xml") document
      ∧ (document.children "compound").filterMap CompoundEntry.ofElement? = entries := by
  simp only [index, map_eq_ok_iff, readDocument_eq_ok_iff]

/-- The index lists the namespace that is found in it. -/
lemma exists_findNamespace?_iff : (∃ entries entry, index fs root = .ok entries
      ∧ findNamespace? name entries = some entry ∧ entry.refid = refid ∧ entry.name = own)
    ↔ Indexed fs root name refid own := by
  simp only [index_eq_ok_iff]
  constructor
  · rintro ⟨_, entry, ⟨document, hdocument, rfl⟩, hfound, rfl, rfl⟩
    obtain ⟨e, he, hentry⟩ := findNamespace?_eq_some_iff.mp hfound
    obtain ⟨hrefid, -, hname⟩ := ofElement?_eq_some_iff.mp hentry
    exact ⟨document, e, hdocument, he, hrefid, hname⟩
  · rintro ⟨document, e, hdocument, he, hrefid, hname⟩
    exact ⟨_, ⟨refid, "namespace", own⟩, ⟨document, hdocument, rfl⟩,
      findNamespace?_eq_some_iff.mpr ⟨e, he, ofElement?_eq_some_iff.mpr ⟨hrefid, he.1.kind, hname⟩⟩,
      rfl, rfl⟩

/-! ### Declarations -/

/-- A parameter of type `void` without a name. -/
def VoidParam (m : Markup) : Prop :=
  ∃ p ∈ m.element?, p.tag = "param" ∧ trim (p.childText "type") = "void"
    ∧ p.child? "declname" = none

instance : DecidablePred VoidParam := fun m =>
  inferInstanceAs (Decidable (∃ p ∈ m.element?, _))

/-- A declaration without its `void` parameters, and otherwise as it was. -/
structure WithoutVoid (e e' : Element) : Prop where
  tag : e'.tag = e.tag
  attributes : e'.attributes = e.attributes
  content : e'.content = e.content.filter (¬ VoidParam ·)

/-- Some declarations are the public functions of a definition, in document order. -/
def DeclaresFunctions (definition : Element) (members : List Element) : Prop :=
  List.Forall₂ WithoutVoid
    (((definition.children "sectiondef").flatMap (·.children "memberdef")).filter fun e =>
      e.attribute? "kind" = some "function" ∧ Public e) members

/-- The last segment of the name of a definition opens an argument list. -/
def ShowsArguments (definition : Element) : Prop :=
  '<' ∈ (shortName (definition.childText "compoundname")).toList

instance : DecidablePred ShowsArguments := fun _ => inferInstanceAs (Decidable (_ ∈ _))

/-- What a class source shows of its definition, whatever aliases it has. -/
structure DescribesClass (definition : Element) (c : ClassSource) : Prop where
  name : c.name = shortName (definition.childText "compoundname")
  node : c.node = withoutSections definition
  members : DeclaresFunctions definition c.members
  constants : c.constants = publicConstants definition

lemma any_isVoidParam_iff {m : Markup} : (m.element?.any isVoidParam) = true ↔ VoidParam m := by
  simp [Option.any_eq_true, isVoidParam, VoidParam, and_assoc]

lemma withoutVoid_iff {e' : Element} : WithoutVoid e e' ↔ stripVoidParams e = e' := by
  have hcontent : (e.content.filter fun m => ! m.element?.any isVoidParam)
      = e.content.filter (¬ VoidParam ·) := by
    refine List.filter_congr fun m _ => ?_
    rw [Bool.eq_iff_iff, decide_eq_true_iff, ← any_isVoidParam_iff, Bool.not_eq_true',
      Bool.not_eq_true]
  rw [stripVoidParams, hcontent]
  constructor
  · rintro ⟨htag, hattributes, hcontent⟩
    rw [← htag, ← hattributes, ← hcontent]
  · rintro rfl
    exact ⟨rfl, rfl, rfl⟩

lemma declaresFunctions_iff {members : List Element} :
    DeclaresFunctions definition members ↔ publicFunctions definition = members := by
  have hfilter : (memberDefs definition "function").filter isPublic
      = ((definition.children "sectiondef").flatMap (·.children "memberdef")).filter fun e =>
        e.attribute? "kind" = some "function" ∧ Public e := by
    rw [memberDefs, List.filter_filter]
    refine List.filter_congr fun e _ => ?_
    rw [Bool.eq_iff_iff, decide_eq_true_iff, Bool.and_eq_true, isPublic_iff, beq_iff_eq, and_comm]
  have hrelation : WithoutVoid = fun e e' => stripVoidParams e = e' := by
    funext e e'
    exact propext withoutVoid_iff
  rw [DeclaresFunctions, publicFunctions, hfilter, hrelation, ← List.forall₂_map_left_iff,
    List.forall₂_eq_eq_eq]

lemma describesClass_of_classOf? {c : ClassSource} (h : classOf? definition = some c) :
    DescribesClass definition c := by
  rw [classOf?] at h
  split at h
  · cases h
  · rw [← Option.some.inj h]
    refine ⟨?_, ?_, declaresFunctions_iff.mpr ?_, ?_⟩ <;> dsimp only

lemma classOf?_eq_none_iff : classOf? definition = none ↔ ShowsArguments definition := by
  rw [classOf?, ShowsArguments, ← List.contains_iff_mem]
  split
  · next h => exact iff_of_true rfl h
  · next h => exact iff_of_false (Option.some_ne_none _) h

/-- The classes of some definitions describe them in order, those that show arguments left out. -/
lemma forall₂_describesClass (definitions : List Element) :
    List.Forall₂ DescribesClass (definitions.filter (¬ ShowsArguments ·))
      (definitions.filterMap classOf?) := by
  induction definitions with
  | nil => exact .nil
  | cons d definitions ih =>
      cases hclass : classOf? d with
      | none =>
          rw [List.filter_cons_of_neg (by simpa using classOf?_eq_none_iff.mp hclass),
            List.filterMap_cons_none hclass]
          exact ih
      | some c =>
          have hshows : ¬ ShowsArguments d := by simp [← classOf?_eq_none_iff, hclass]
          rw [List.filter_cons_of_pos (by simpa using hshows), List.filterMap_cons_some hclass]
          exact .cons (describesClass_of_classOf? hclass) ih

/-- An alias changes nothing that describes a definition. -/
lemma forall₂_describesClass_addAlias {definitions : List Element} {classes : List ClassSource}
    (h : List.Forall₂ DescribesClass definitions classes) (target name : String) :
    List.Forall₂ DescribesClass definitions (addAlias target name classes) := by
  induction h with
  | nil => exact .nil
  | cons hclass hrest ih =>
      rw [addAlias]
      split
      · exact .cons ⟨hclass.name, hclass.node, hclass.members, hclass.constants⟩ hrest
      · exact .cons hclass ih

lemma forall₂_describesClass_foldl {definitions : List Element} {classes : List ClassSource}
    (h : List.Forall₂ DescribesClass definitions classes) (typedefs : List Element) :
    List.Forall₂ DescribesClass definitions (typedefs.foldl resolveAlias classes) := by
  induction typedefs generalizing classes with
  | nil => exact h
  | cons typedef typedefs ih => exact ih (forall₂_describesClass_addAlias h _ _)

/-! ### Classes -/

/-- The definitions of the public inner classes that have an identifier, in document order. -/
def DefinesClasses (fs : FileSystem) (root : String) (definition : Element)
    (definitions : List Element) : Prop :=
  List.Forall₂ (fun e d => ∃ refid, e.attribute? "refid" = some refid ∧ Defines fs root refid d)
    ((definition.children "innerclass").filter fun e => Public e ∧ (e.attribute? "refid").isSome)
    definitions

lemma mem_innerClasses_iff : refid ∈ innerClasses definition ↔
    ∃ e ∈ definition.children "innerclass", Public e ∧ e.attribute? "refid" = some refid := by
  simp only [innerClasses, List.mem_filterMap, List.mem_filter, isPublic_iff, and_assoc]

lemma forall₂_filterMap_iff {α β γ : Type} {R : β → γ → Prop} {f : α → Option β} {as : List α}
    {cs : List γ} : List.Forall₂ R (as.filterMap f) cs
      ↔ List.Forall₂ (fun a c => ∃ b, f a = some b ∧ R b c) (as.filter (f · |>.isSome)) cs := by
  induction as generalizing cs with
  | nil => simp only [List.filterMap_nil, List.filter_nil, List.forall₂_nil_left_iff]
  | cons a as ih =>
      cases hb : f a with
      | none => rw [List.filterMap_cons_none hb, List.filter_cons_of_neg (by simp [hb]), ih]
      | some b =>
          rw [List.filterMap_cons_some hb, List.filter_cons_of_pos (by simp [hb]),
            List.forall₂_cons_left_iff, List.forall₂_cons_left_iff]
          simp only [ih, hb, Option.some.injEq, exists_eq_left']

lemma definesClasses_iff {definitions : List Element} :
    DefinesClasses fs root definition definitions ↔
      List.Forall₂ (fun refid d => compound fs root refid = .ok d) (innerClasses definition)
        definitions := by
  have hfilter : ((definition.children "innerclass").filter isPublic).filter
        (·.attribute? "refid" |>.isSome)
      = (definition.children "innerclass").filter fun e =>
        Public e ∧ (e.attribute? "refid").isSome := by
    rw [List.filter_filter]
    refine List.filter_congr fun e _ => ?_
    rw [Bool.eq_iff_iff, decide_eq_true_iff, Bool.and_eq_true, isPublic_iff, and_comm]
  simp only [compound_eq_ok_iff]
  rw [innerClasses, forall₂_filterMap_iff, hfilter, DefinesClasses]

/-! ### Requirements -/

/-- Everything that must be there: a namespace in the index, its definition, and that of every
public inner class with an identifier. -/
def Loadable (fs : FileSystem) (root : String) (name : Option String) : Prop :=
  ∃ refid own definition, Indexed fs root name refid own ∧ Defines fs root refid definition
    ∧ ∀ e ∈ definition.children "innerclass", Public e →
      ∀ inner, e.attribute? "refid" = some inner → ∃ d, Defines fs root inner d

/-- A namespace is made of what its definition and those of its classes declare. -/
def Describes (own : String) (definition : Element) (definitions : List Element)
    (n : NamespaceDecl) : Prop :=
  ∃ classes functions, List.Forall₂ DescribesClass (definitions.filter (¬ ShowsArguments ·)) classes
    ∧ DeclaresFunctions definition functions ∧ n = .ofSources own classes functions

lemma describes_namespaceOf (own : String) (definition : Element) (definitions : List Element) :
    Describes own definition definitions (namespaceOf own definition definitions) :=
  ⟨_, _, forall₂_describesClass_foldl (forall₂_describesClass definitions) _,
    declaresFunctions_iff.mpr rfl, rfl⟩

lemma exists_loadsFrom_iff : (∃ entry definition definitions,
      LoadsFrom fs root name entry definition definitions) ↔ Loadable fs root name := by
  constructor
  · rintro ⟨entry, definition, definitions, ⟨entries, hentries, hfound⟩, hown, hinner⟩
    refine ⟨entry.refid, entry.name, definition,
      exists_findNamespace?_iff.mp ⟨entries, entry, hentries, hfound, rfl, rfl⟩,
      compound_eq_ok_iff.mp hown, fun e he hpublic inner hrefid => ?_⟩
    have hmem := mem_innerClasses_iff.mpr ⟨e, he, hpublic, hrefid⟩
    obtain ⟨d, -, hd⟩ := exists_right_of_mem hinner hmem
    exact ⟨d, compound_eq_ok_iff.mp hd⟩
  · rintro ⟨refid, own, definition, hindexed, hown, hinner⟩
    obtain ⟨entries, entry, hentries, hfound, rfl, rfl⟩ := exists_findNamespace?_iff.mpr hindexed
    have hall : ∀ inner ∈ innerClasses definition, ∃ d, compound fs root inner = .ok d := by
      intro inner hmem
      obtain ⟨e, he, hpublic, hrefid⟩ := mem_innerClasses_iff.mp hmem
      exact (hinner e he hpublic inner hrefid).imp fun _ => compound_eq_ok_iff.mpr
    obtain ⟨definitions, hdefinitions⟩ := exists_mapM_eq_ok_iff.mpr hall
    exact ⟨entry, definition, definitions, ⟨entries, hentries, hfound⟩,
      compound_eq_ok_iff.mpr hown, mapM_eq_ok_iff.mp hdefinitions⟩

/-! ### Files -/

/-- The files that loading reads: the index, the file of the namespace that it lists, and those of
the public inner classes. -/
inductive Needs (fs : FileSystem) (root : String) (name : Option String) : String → Prop where
  | index : Needs fs root name (join root "index.xml")
  | own {refid own : String} (indexed : Indexed fs root name refid own) :
    Needs fs root name (join root (refid ++ ".xml"))
  | inner {refid own inner : String} {definition e : Element}
      (indexed : Indexed fs root name refid own) (defined : Defines fs root refid definition)
      (mem : e ∈ definition.children "innerclass") (isPublic : Public e)
      (identified : e.attribute? "refid" = some inner) :
    Needs fs root name (join root (inner ++ ".xml"))

/-- The files that loading reads, in this order. -/
def neededFiles (fs : FileSystem) (root : String) (name : Option String) : List String :=
  join root "index.xml" ::
    match index fs root with
    | .error _ => []
    | .ok entries =>
      match findNamespace? name entries with
      | none => []
      | some entry =>
        join root (entry.refid ++ ".xml") ::
          match compound fs root entry.refid with
          | .error _ => []
          | .ok definition => (innerClasses definition).map fun refid => join root (refid ++ ".xml")

lemma needs_iff : Needs fs root name path ↔ path ∈ neededFiles fs root name := by
  rw [neededFiles, List.mem_cons]
  constructor
  · rintro (_ | ⟨hindexed⟩ | ⟨hindexed, hdefined, he, hpublic, hrefid⟩)
    · exact .inl rfl
    · obtain ⟨entries, entry, hentries, hfound, rfl, -⟩ := exists_findNamespace?_iff.mpr hindexed
      simp only [hentries, hfound, List.mem_cons, true_or, or_true]
    · obtain ⟨entries, entry, hentries, hfound, rfl, -⟩ := exists_findNamespace?_iff.mpr hindexed
      simp only [hentries, hfound, compound_eq_ok_iff.mpr hdefined, List.mem_cons]
      exact .inr (.inr (List.mem_map_of_mem (mem_innerClasses_iff.mpr ⟨_, he, hpublic, hrefid⟩)))
  · rintro (rfl | hpath)
    · exact .index
    split at hpath
    · cases hpath
    next entries hentries =>
    split at hpath
    · cases hpath
    next entry hfound =>
    have hindexed : Indexed fs root name entry.refid entry.name :=
      exists_findNamespace?_iff.mp ⟨entries, entry, hentries, hfound, rfl, rfl⟩
    rcases List.mem_cons.mp hpath with rfl | hpath
    · exact .own hindexed
    split at hpath
    · cases hpath
    next definition hdefinition =>
    obtain ⟨refid, hinner, rfl⟩ := List.mem_map.mp hpath
    obtain ⟨e, he, hpublic, hrefid⟩ := mem_innerClasses_iff.mp hinner
    exact .inner hindexed (compound_eq_ok_iff.mp hdefinition) he hpublic hrefid

lemma readDocument_congr (h : fs'.read? path = fs.read? path) :
    readDocument fs' path = readDocument fs path := by
  rw [readDocument, readDocument, h]

lemma compound_congr (h : fs'.read? (join root (refid ++ ".xml"))
    = fs.read? (join root (refid ++ ".xml"))) :
    compound fs' root refid = compound fs root refid := by
  rw [compound, compound, readDocument_congr h]

/-- Classes are the same wherever all of their files are, the first error included. -/
lemma loadClasses_congr {refids : List String} (h : ∀ refid ∈ refids,
    fs'.read? (join root (refid ++ ".xml")) = fs.read? (join root (refid ++ ".xml"))) :
    loadClasses fs' root refids = loadClasses fs root refids := by
  induction refids with
  | nil => rfl
  | cons refid refids ih =>
      obtain ⟨hfirst, hrest⟩ := List.forall_mem_cons.mp h
      rw [loadClasses, loadClasses, compound_congr hfirst, ih hrest]

/-- A namespace is the same wherever all files are that it needs. -/
lemma loadNamespace_congr (h : ∀ path, Needs fs root name path → fs'.read? path = fs.read? path) :
    loadNamespace fs' root name = loadNamespace fs root name := by
  have hindex : index fs' root = index fs root := by
    rw [index, index, readDocument_congr (h _ .index)]
  rw [loadNamespace, loadNamespace, hindex]
  cases hentries : index fs root with
  | error e => rfl
  | ok entries =>
    cases hfound : findNamespace? name entries with
    | none => simp only [bind, Except.bind, hfound]
    | some entry =>
      have hindexed : Indexed fs root name entry.refid entry.name :=
        exists_findNamespace?_iff.mp ⟨entries, entry, hentries, hfound, rfl, rfl⟩
      simp only [bind, Except.bind, hfound, compound_congr (h _ (.own hindexed))]
      cases hown : compound fs root entry.refid with
      | error e => rfl
      | ok definition =>
        have hclasses : loadClasses fs' root (innerClasses definition)
            = loadClasses fs root (innerClasses definition) := by
          refine loadClasses_congr fun inner hinner => h _ ?_
          obtain ⟨e, he, hpublic, hrefid⟩ := mem_innerClasses_iff.mp hinner
          exact .inner hindexed (compound_eq_ok_iff.mp hown) he hpublic hrefid
        simp only [hclasses]

/-- **Loading is exact.** A namespace is loaded exactly when everything that must be there is. It
is then made of what the definitions declare, and no other file matters: wherever the files are the
same that it needs, the result is the same, with or without an error. -/
theorem loading_exact (fs : FileSystem) (root : String) (name : Option String) :
    ((∃ n, loadNamespace fs root name = .ok n) ↔ Loadable fs root name)
      ∧ (∀ n, loadNamespace fs root name = .ok n →
        ∃ refid own definition definitions, Indexed fs root name refid own
          ∧ Defines fs root refid definition ∧ DefinesClasses fs root definition definitions
          ∧ Describes own definition definitions n)
      ∧ ∀ fs', (∀ path, Needs fs root name path → fs'.read? path = fs.read? path) →
        loadNamespace fs' root name = loadNamespace fs root name := by
  refine ⟨?_, fun n hload => ?_, fun fs' => loadNamespace_congr⟩
  · rw [← exists_loadsFrom_iff]
    simp only [loadNamespace_eq_ok_iff]
    constructor
    · rintro ⟨n, entry, definition, definitions, hfrom, -⟩
      exact ⟨entry, definition, definitions, hfrom⟩
    · rintro ⟨entry, definition, definitions, hfrom⟩
      exact ⟨_, entry, definition, definitions, hfrom, rfl⟩
  · obtain ⟨entry, definition, definitions, hfrom, rfl⟩ := loadNamespace_eq_ok_iff.mp hload
    obtain ⟨entries, hentries, hfound⟩ := hfrom.indexed
    exact ⟨entry.refid, entry.name, definition, definitions,
      exists_findNamespace?_iff.mp ⟨entries, entry, hentries, hfound, rfl, rfl⟩,
      compound_eq_ok_iff.mp hfrom.own, definesClasses_iff.mpr hfrom.inner,
      describes_namespaceOf _ _ _⟩

/-- Beside the files of a namespace, one that is no document does not matter. -/
theorem loading_exact_box :
    let fs := boxDirectory "int"
    let fs' := fs.set ["xml", "draft.xml"] (.file "<".toUTF8)
    Loadable fs "xml" (some "lib")
      ∧ (∃ n, loadNamespace fs "xml" (some "lib") = .ok n ∧ n.classes.map (·.name) = ["Point"]
        ∧ ∃ refid own definition definitions, Indexed fs "xml" (some "lib") refid own
          ∧ Defines fs "xml" refid definition ∧ DefinesClasses fs "xml" definition definitions
          ∧ Describes own definition definitions n)
      ∧ (∀ path, Needs fs "xml" (some "lib") path → fs'.read? path = fs.read? path)
      ∧ loadNamespace fs' "xml" (some "lib") = loadNamespace fs "xml" (some "lib") := by
  intro fs fs'
  obtain ⟨hloadable, hdescribes, hcongr⟩ := loading_exact fs "xml" (some "lib")
  obtain ⟨n, hload, hnames⟩ : ∃ n, loadNamespace fs "xml" (some "lib") = .ok n
      ∧ n.classes.map (·.name) = ["Point"] := exists_eq_ok_of_any (by decide +kernel)
  have hagree : ∀ path ∈ neededFiles fs "xml" (some "lib"), fs'.read? path = fs.read? path := by
    decide +kernel
  have hneeds : ∀ path, Needs fs "xml" (some "lib") path → fs'.read? path = fs.read? path :=
    fun path hpath => hagree path (needs_iff.mp hpath)
  exact ⟨hloadable.mp ⟨n, hload⟩, ⟨n, hload, hnames, hdescribes n hload⟩, hneeds, hcongr fs' hneeds⟩

end LuaBinder.Doxygen
