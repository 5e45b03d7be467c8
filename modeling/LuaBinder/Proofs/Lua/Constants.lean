import LuaBinder.Proofs.Doxygen.Requirements
import LuaBinder.Proofs.Lua.Preview
import LuaBinder.Proofs.Lua.Closure

/-!
The constants of loaded classes.

A class takes the enumerators of all its public enumerations for constants of its own, and its file
names each of them behind the name of the class. Enumerators of a scoped enumeration do not stand
there. The enumerations are those of the definition as it is read, whatever reads it.

* `publicEnums`, `enumerators`, `Scoped`: the public enumerations of a definition, the names of the
  enumerators of one, and those that keep their enumerators to themselves.
* `publicConstants_eq`: the constants of a class are the enumerators of its public enumerations.
* `constantTable`, `HasConstants`: the table of enumerators in the text of a file.
* `class_constants_exact_iff`: the constants of a loaded class, which are the rows of this table,
  are the enumerators that stand in the class exactly when no public scoped enumeration has any.
-/

namespace LuaBinder

open Code Lua Text

namespace Doxygen

open Store

/-! ### Enumerations -/

/-- The public enumerations of a definition, in document order. -/
def publicEnums (definition : Element) : List Element :=
  ((definition.children "sectiondef").flatMap (·.children "memberdef")).filter fun e =>
    e.attribute? "kind" = some "enum" ∧ Public e

/-- The names of the enumerators of an enumeration, those without a name left out. -/
def enumerators (e : Element) : List String :=
  ((e.children "enumvalue").map fun value => trim (value.childText "name")).filter (· ≠ "")

/-- The enumerators stand in the scope of the enumeration and not in the class around it. -/
def Scoped (e : Element) : Prop := e.attribute? "strong" = some "yes"

instance : DecidablePred Scoped := fun e =>
  inferInstanceAs (Decidable (e.attribute? "strong" = some "yes"))

lemma filterMap_nonBlank?_eq (values : List Element) :
    values.filterMap (fun value => nonBlank? (value.childText "name"))
      = (values.map fun value => trim (value.childText "name")).filter (· ≠ "") := by
  rw [← List.filterMap_eq_filter, List.filterMap_map]
  refine List.filterMap_congr fun value _ => ?_
  simp [nonBlank?, Option.guard]

/-- The constants of a class are the enumerators of its public enumerations. -/
lemma publicConstants_eq (definition : Element) :
    publicConstants definition = (publicEnums definition).flatMap enumerators := by
  have henums : (memberDefs definition "enum").filter isPublic = publicEnums definition := by
    rw [memberDefs, List.filter_filter, publicEnums]
    refine List.filter_congr fun e _ => ?_
    rw [Bool.eq_iff_iff, decide_eq_true_iff, Bool.and_eq_true, isPublic_iff, beq_iff_eq, and_comm]
  rw [publicConstants, henums, List.filterMap_flatMap]
  exact List.flatMap_congr fun e _ => filterMap_nonBlank?_eq _

/-- Elements that are left out are missed unless nothing is made of them. -/
lemma flatMap_eq_flatMap_filter_iff {α β : Type} {f : α → List β} {p : α → Bool} {as : List α} :
    as.flatMap f = (as.filter p).flatMap f ↔ ∀ a ∈ as, p a = false → f a = [] := by
  induction as with
  | nil => simp
  | cons a as ih =>
      rw [List.forall_mem_cons, ← ih, List.filter_cons, List.flatMap_cons]
      split
      · next hp => simp [hp]
      · next hp =>
          rw [forall_prop_of_true (by simpa using hp)]
          constructor
          · intro h
            -- what is left is no longer than the rest of the list makes it
            have hle : ((as.filter p).flatMap f).length ≤ (as.flatMap f).length :=
              (List.filter_sublist.flatMap f).length_le
            have hlength := congrArg List.length h
            rw [List.length_append] at hlength
            have hnil : f a = [] := List.length_eq_zero_iff.mp (by omega)
            exact ⟨hnil, by rwa [hnil, List.nil_append] at h⟩
          · rintro ⟨hnil, h⟩
            rw [hnil, List.nil_append, h]

end Doxygen

/-! ### The table of enumerators -/

/-- The table of enumerators of a class of the given name. -/
def constantTable (name : String) (rows : List Row) : List Step :=
  tableSteps ("static const struct dub_const_Reg " ++ name ++ "_const[] = \x7b")
    "\x7b NULL, 0 \x7d," rows

/-- The text has the table of enumerators of a class, with these rows. -/
def HasConstants (content name : String) (rows : List Row) : Prop :=
  ∃ front back, content = front ++ render (constantTable name rows) ++ back

/-- The file of a class has the table of its enumerators, if there are any. -/
lemma hasConstants (file : ClassFile) (h : file.constants ≠ []) :
    HasConstants file.text file.name file.constants := by
  have hfront : depthAfterAll? 0 (file.functionSteps
      ++ functionTable (file.name ++ "_member_methods") file.methods) = some 0 :=
    depthAfterAll?_append (depthAfterAll?_of_flatAll file.flatAll_functionSteps 0)
      (depth_tableSteps _ _ _)
  have htable : depthAfterAll? 0 (file.functionSteps
      ++ functionTable (file.name ++ "_member_methods") file.methods
      ++ constantTable file.name file.constants) = some 0 :=
    depthAfterAll?_append hfront (depth_tableSteps _ _ _)
  have hconstants : file.constantSteps = constantTable file.name file.constants := by
    rw [ClassFile.constantSteps, if_neg (by simpa using h)]
    rfl
  have htext : file.text = render (file.functionSteps
      ++ functionTable (file.name ++ "_member_methods") file.methods
      ++ constantTable file.name file.constants
      ++ (functionTable (file.name ++ "_namespace_methods") file.creators ++ file.openSteps)) := by
    rw [ClassFile.text, ClassFile.steps, ClassFile.functionSteps, hconstants]
    simp only [List.append_assoc]
  exact ⟨_, _, by rw [htext, render_append htable, render_append hfront]⟩

lemma constants_of_ofClass {o : Options} {resolve : Resolver} {c : ClassDecl} {file : ClassFile}
    (h : ClassFile.ofClass o resolve c = .ok file) :
    file.name = c.name ∧ file.constants = constantRows c := by
  obtain ⟨constructors, -, h⟩ := bind_eq_ok_iff.mp h
  obtain ⟨members, -, h⟩ := bind_eq_ok_iff.mp h
  obtain ⟨methods, -, h⟩ := bind_eq_ok_iff.mp h
  obtain ⟨creators, -, h⟩ := bind_eq_ok_iff.mp h
  cases h
  exact ⟨rfl, rfl⟩

/-- A rendered class has a row for every constant, which it names behind its own name. -/
lemma hasConstants_of_renderClass {o : Options} {resolve : Resolver} {c : ClassDecl} {text : String}
    (h : (renderer o).renderClass resolve c = .ok text) (hconstants : c.constants ≠ []) :
    HasConstants text c.name (c.constants.map fun v => ⟨v, c.name ++ "::" ++ v⟩) := by
  obtain ⟨file, hfile, rfl⟩ := map_eq_ok_iff.mp h
  obtain ⟨hname, hrows⟩ := constants_of_ofClass hfile
  have hne : file.constants ≠ [] := by
    rw [hrows]
    simpa [constantRows] using hconstants
  have htable := hasConstants file hne
  rwa [hname, hrows] at htable

/-! ### Loaded classes -/

namespace Doxygen

open Store

variable {fs : FileSystem} {root : String} {name : Option String} {n : NamespaceDecl}

/-- A loaded class beside its definition: its constants, the table of its file, and when these are
the enumerators that stand in the class. -/
structure NamesEnumerators (definition : Element) (c : ClassDecl) : Prop where
  constants : c.constants = (publicEnums definition).flatMap enumerators
  table : ∀ o resolve text, (renderer o).renderClass resolve c = .ok text → c.constants ≠ [] →
    HasConstants text c.name (c.constants.map fun v => ⟨v, c.name ++ "::" ++ v⟩)
  exact_iff : c.constants = ((publicEnums definition).filter (¬ Scoped ·)).flatMap enumerators
    ↔ ∀ e ∈ publicEnums definition, Scoped e → enumerators e = []

lemma namesEnumerators_of_constants {definition : Element} {c : ClassDecl}
    (h : c.constants = publicConstants definition) : NamesEnumerators definition c := by
  have hconstants := h.trans (publicConstants_eq definition)
  refine ⟨hconstants, fun o resolve text => hasConstants_of_renderClass, ?_⟩
  rw [hconstants, flatMap_eq_flatMap_filter_iff]
  simp only [decide_eq_false_iff_not, not_not]

/-- **Class constants.** The constants of a loaded class are the enumerators of the public
enumerations of its definition, in document order, and the table in its file has a row for each of
them, which names it behind the class. They are the enumerators that stand in the class exactly when
no scoped one of these enumerations has an enumerator. -/
theorem class_constants_exact_iff (h : loadNamespace fs root name = .ok n) :
    ∃ entry definition definitions, LoadsFrom fs root name entry definition definitions
      ∧ List.Forall₂ NamesEnumerators (definitions.filter (¬ ShowsArguments ·)) n.classes := by
  obtain ⟨entry, definition, definitions, hfrom, rfl⟩ := loadNamespace_eq_ok_iff.mp h
  refine ⟨entry, definition, definitions, hfrom, ?_⟩
  have hdescribes := forall₂_describesClass_foldl (forall₂_describesClass definitions)
    (memberDefs definition "typedef")
  rw [namespaceOf, NamespaceDecl.ofSources, List.forall₂_map_right_iff]
  exact hdescribes.imp fun d c hc => namesEnumerators_of_constants hc.constants

/-- A namespace with the class `Box`, which declares enumerations, scoped or not, with one
enumerator each. -/
def enumDirectory (enums : List (String × String)) : FileSystem where
  entries := [
    (["xml"], .directory),
    (["xml", "index.xml"], .file <| String.toUTF8 <|
      "<doxygenindex><compound refid=\"lib\" kind=\"namespace\"><name>lib</name></compound>"
        ++ "</doxygenindex>"),
    (["xml", "lib.xml"], .file <| String.toUTF8
      "<doxygen><compounddef><innerclass refid=\"box\"/></compounddef></doxygen>"),
    (["xml", "box.xml"], .file <| String.toUTF8 <|
      "<doxygen><compounddef><compoundname>Box</compoundname><sectiondef>"
        ++ String.join (enums.map fun (strong, name) =>
          "<memberdef kind=\"enum\" strong=\"" ++ strong ++ "\"><enumvalue><name>" ++ name
            ++ "</name></enumvalue></memberdef>")
        ++ "</sectiondef></compounddef></doxygen>")]

/-- An enumerator of an unscoped enumeration stands in the class. -/
theorem class_constants_exact_box :
    let fs := enumDirectory [("no", "RED")]
    ∃ n c definition, loadNamespace fs "xml" none = .ok n ∧ n.classes = [c]
      ∧ compound fs "xml" "box" = .ok definition ∧ NamesEnumerators definition c
      ∧ c.constants = ["RED"]
      ∧ ((publicEnums definition).filter (¬ Scoped ·)).flatMap enumerators = ["RED"] := by
  intro fs
  have hindexed : ∃ entries, index fs "xml" = .ok entries
      ∧ findNamespace? none entries = some ⟨"lib", "namespace", "lib"⟩ :=
    exists_eq_ok_of_any (by decide +kernel)
  have hread : ∃ read : Element × Element,
      ((compound fs "xml" "lib").bind fun own => (compound fs "xml" "box").map (own, ·)) = .ok read
        ∧ innerClasses read.1 = ["box"]
        ∧ ((publicEnums read.2).filter (¬ Scoped ·)).flatMap enumerators = ["RED"]
        ∧ ¬ ShowsArguments read.2
        ∧ (namespaceOf "lib" read.1 [read.2]).classes.map (·.constants) = [["RED"]] :=
    exists_eq_ok_of_any (by decide +kernel)
  obtain ⟨own, box, hloads, hbox, hunscoped, hshows, hclasses⟩ :=
    exists_loadsFrom_of_read hindexed hread
  have hload := loadNamespace_eq_ok_iff.mpr ⟨_, own, [box], hloads, rfl⟩
  obtain ⟨c, hc, hconstants⟩ := List.map_eq_singleton_iff.mp hclasses
  obtain ⟨entry, definition, definitions, hfrom, hnames⟩ := class_constants_exact_iff hload
  obtain ⟨rfl, rfl, rfl⟩ := hloads.unique hfrom
  have hkept : [box].filter (¬ ShowsArguments ·) = [box] :=
    List.filter_eq_self.mpr (by simpa using hshows)
  rw [hkept, hc] at hnames
  obtain ⟨hbox', -⟩ := List.forall₂_cons.mp hnames
  exact ⟨_, c, box, hload, hc, hbox, hbox', hconstants, hunscoped⟩

/-- An enumerator of a scoped enumeration is named behind the class, where it does not stand. -/
theorem scoped_enumerator_registered :
    let fs := enumDirectory [("no", "RED"), ("yes", "FAST")]
    ∃ n c definition text, loadNamespace fs "xml" none = .ok n ∧ n.classes = [c]
      ∧ compound fs "xml" "box" = .ok definition
      ∧ ((publicEnums definition).filter (¬ Scoped ·)).flatMap enumerators = ["RED"]
      ∧ (renderer {}).renderClass everywhere c = .ok text
      ∧ HasConstants text "Box" [⟨"RED", "Box::RED"⟩, ⟨"FAST", "Box::FAST"⟩] := by
  intro fs
  have hindexed : ∃ entries, index fs "xml" = .ok entries
      ∧ findNamespace? none entries = some ⟨"lib", "namespace", "lib"⟩ :=
    exists_eq_ok_of_any (by decide +kernel)
  have hread : ∃ read : Element × Element,
      ((compound fs "xml" "lib").bind fun own => (compound fs "xml" "box").map (own, ·)) = .ok read
        ∧ innerClasses read.1 = ["box"]
        ∧ ((publicEnums read.2).filter (¬ Scoped ·)).flatMap enumerators = ["RED"]
        ∧ (namespaceOf "lib" read.1 [read.2]).classes.map (fun c => (c.name, c.constants))
          = [("Box", ["RED", "FAST"])] :=
    exists_eq_ok_of_any (by decide +kernel)
  obtain ⟨own, box, hloads, hbox, hunscoped, hclasses⟩ := exists_loadsFrom_of_read hindexed hread
  have hload := loadNamespace_eq_ok_iff.mpr ⟨_, own, [box], hloads, rfl⟩
  obtain ⟨c, hc, hnamed⟩ := List.map_eq_singleton_iff.mp hclasses
  obtain ⟨hname, hconstants⟩ := Prod.mk.inj hnamed
  have hrendered : (renderer {}).renderClass everywhere c = .ok (ClassFile.ofKept {} c).text :=
    congrArg (Except.map ClassFile.text) (ofClass_eq everywhere_eq {} c)
  have htable := hasConstants_of_renderClass hrendered (by rw [hconstants]; simp)
  rw [hname, hconstants] at htable
  exact ⟨_, c, box, _, hload, hc, hbox, hunscoped, hrendered, htable⟩

end Doxygen

end LuaBinder
