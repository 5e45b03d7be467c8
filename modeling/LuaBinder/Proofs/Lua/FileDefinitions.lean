import LuaBinder.Proofs.Lua.Definitions
import LuaBinder.Proofs.Lua.Preview
import LuaBinder.Proofs.Text.Quoted

/-!
What a binding source opens, in order, and the C functions among it.

The lines above the first function open nothing. Behind it stand the definitions of the functions,
then the tables and the function that opens the library, which define no C function that Lua calls.

* `tableLine`, `constantLine`, `openingLine`: the headers behind the functions of a file.
* `ClassFile.heads_steps`, `NamespaceFile.heads_steps`: the headers of a file from those of its
  parts.
* `UnbrokenClass`, `UnbrokenFunctions`: the texts that a file shows hold no line break.
* `heads_classFile`, `heads_namespaceFile`: the headers of the files of a namespace.
* `definedNames_classFile`, `definedNames_namespaceFile`: the functions that they define.
-/

namespace LuaBinder.Lua

open Code Text

/-! ### Tables and other steps of a file -/

/-- Steps whose headers open no C function define nothing. -/
lemma Yields.of_heads_nil {steps : List Step} {headers : List String} (h : Heads steps headers)
    (hnone : ∀ header ∈ headers, definedName? header = none) : Yields steps [] := by
  have hyields := Yields.of_heads h
  rwa [List.filterMap_eq_nil_iff.mpr hnone] at hyields

/-- Only one row of the comment at the top depends on its subject, and all rows belong to the
comment. -/
lemma heads_banner {subject : String} (h : Unbroken subject) :
    Heads [.lines (banner subject)] [] := by
  have hrows : banner subject
      = "/**\n *\n * MACHINE GENERATED FILE. DO NOT EDIT.\n *\n"
        ++ ((" * " ++ subject ++ "\n")
          ++ " *\n * This file has been generated by dub 0.3.0.\n */") := by
    dsimp only [banner, version]
    apply String.toList_inj.mp
    simp only [String.toList_append, String.reduceToList, List.append_assoc, List.cons_append,
      List.nil_append]
  have hrow : Unbroken (" * " ++ subject) := .append (unbroken_ofList rfl) h
  have hfront : WholeLines "/**\n *\n * MACHINE GENERATED FILE. DO NOT EDIT.\n *\n" :=
    .inr ⟨"/**\n *\n * MACHINE GENERATED FILE. DO NOT EDIT.\n *", by decide⟩
  have hreturn : '\r' ∉ (banner subject).toList := by
    rw [hrows]
    simp only [String.toList_append, List.mem_append, not_or]
    exact ⟨by decide, ⟨⟨by decide, h.noReturn⟩, by decide⟩, by decide⟩
  have hnone : (lines (banner subject)).filterMap headerOf? = [] := by
    rw [hrows, lines_append hfront, lines_append (wholeLines_row _), lines_row hrow.isRow,
      List.filterMap_append, List.filterMap_append,
      List.filterMap_cons_none (headerOf?_quiet rfl subject)]
    decide +kernel
  have hlines := Heads.lines fun row hrow => unbroken_of_mem_lines hreturn hrow
  rwa [hnone] at hlines

lemma heads_includeLine {path : String} (h : Unbroken path) : Heads [includeLine path] [] := by
  rw [includeLine, String.append_assoc]
  exact Heads.line_quiet rfl (unbroken_ofList rfl) (.append h (unbroken_ofList rfl))

lemma heads_using {name : String} (h : Unbroken name) :
    Heads [.line ("using namespace " ++ name ++ ";"), .blank] [] := by
  rw [String.append_assoc]
  exact (Heads.line_quiet rfl (unbroken_ofList rfl)
    (.append h (unbroken_ofList rfl))).append Heads.blank

lemma unbroken_rowText {r : Row} (h : Unbroken r.identifier) : Unbroken r.text := by
  have hname := unbroken_padRight nameColumn (unbroken_quote r.name)
  simp only [Row.text, unbroken_append, hname, h, and_true]
  and_intros <;> exact unbroken_ofList rfl

lemma unbrokenAll_tableRows {rows : List Row} (h : ∀ r ∈ rows, Unbroken r.identifier) :
    UnbrokenAll (tableRows rows) := by
  rw [tableRows]
  split
  · trivial
  · refine ⟨fun row hrow => unbroken_of_mem_lines ?_ hrow, trivial⟩
    rw [String.toList_append, List.mem_append, not_or]
    refine ⟨not_mem_intercalate (by decide) fun text htext => ?_, by decide⟩
    obtain ⟨r, hr, rfl⟩ := List.mem_map.mp htext
    exact (unbroken_rowText (h r hr)).noReturn

lemma flatAll_tableRows (rows : List Row) : Builder.flatAll (tableRows rows) = true := by
  rw [tableRows]
  split <;> rfl

/-- The line that opens a table of functions. -/
def tableLine (name : String) : String := "static const struct luaL_Reg " ++ name ++ "[] = \x7b"

/-- The line that opens the table of the constants of a class. -/
def constantLine (name : String) : String :=
  "static const struct dub_const_Reg " ++ name ++ "_const[] = \x7b"

/-- The line of the function that opens a library. -/
def openingLine (registryName : String) : String :=
  "extern \"C\" int luaopen_" ++ openName registryName ++ "(lua_State *L) \x7b"

lemma tableLine_eq (name : String) :
    tableLine name = "static const struct luaL_Reg " ++ (name ++ "[] = \x7b") := String.append_assoc

lemma constantLine_eq (name : String) :
    constantLine name = "static const struct dub_const_Reg " ++ (name ++ "_const[] = \x7b") :=
  String.append_assoc

lemma openingLine_eq (registryName : String) : openingLine registryName
    = "extern \"C\" int luaopen_" ++ (openName registryName ++ "(lua_State *L) \x7b") :=
  String.append_assoc

lemma headerOf?_tableLine (name : String) : headerOf? (tableLine name) = some (tableLine name) := by
  rw [tableLine_eq]
  exact headerOf?_header rfl _

lemma headerOf?_constantLine (name : String) :
    headerOf? (constantLine name) = some (constantLine name) := by
  rw [constantLine_eq]
  exact headerOf?_header rfl _

lemma headerOf?_openingLine (registryName : String) :
    headerOf? (openingLine registryName) = some (openingLine registryName) := by
  rw [openingLine_eq]
  exact headerOf?_header rfl _

/-- None of these lines opens one of the C functions that Lua calls by name. -/
lemma definedName?_tableLine (name : String) : definedName? (tableLine name) = none := by
  rw [tableLine_eq]
  exact definedName?_append rfl _

lemma definedName?_constantLine (name : String) : definedName? (constantLine name) = none := by
  rw [constantLine_eq]
  exact definedName?_append rfl _

lemma definedName?_openingLine (registryName : String) :
    definedName? (openingLine registryName) = none := by
  rw [openingLine_eq]
  exact definedName?_append rfl _

lemma heads_functionTable {name : String} {rows : List Row} (hname : Unbroken name)
    (hrows : ∀ r ∈ rows, Unbroken r.identifier) :
    Heads (functionTable name rows) [tableLine name] := by
  have hheader : Unbroken (tableLine name) :=
    .append (.append (unbroken_ofList rfl) hname) (unbroken_ofList rfl)
  have hending : Unbroken "\x7b NULL, NULL \x7d," := unbroken_ofList rfl
  have htable := Heads.enclosed hheader hending (unbrokenAll_tableRows hrows)
    (flatAll_tableRows rows)
  rwa [headerOf?_tableLine] at htable

lemma unbroken_openName {name : String} (h : Unbroken name) : Unbroken (openName name) := by
  have hne : ∀ c : Char, ∀ x ∈ ['\n', '\r'], (if c == '.' then '_' else c) = x → c = x := by
    intro c x hx heq
    split at heq
    · rw [← heq] at hx
      exact absurd hx (by decide)
    · exact heq
  rw [unbroken_iff, openName, String.toList_ofList]
  constructor
  · intro hmem
    obtain ⟨c, hc, heq⟩ := List.mem_map.mp hmem
    rw [hne c '\n' (by decide) heq] at hc
    exact h.noFeed hc
  · intro hmem
    obtain ⟨c, hc, heq⟩ := List.mem_map.mp hmem
    rw [hne c '\r' (by decide) heq] at hc
    exact h.noReturn hc

/-- The function that opens a library is opened by its own line. -/
lemma heads_open {name : String} {body : List Step} (hname : Unbroken name)
    (hbody : UnbrokenAll body) (hflat : Builder.flatAll body = true) :
    Heads [.block (openingLine name) "\x7d" body] [openingLine name] := by
  have hheader : Unbroken (openingLine name) :=
    .append (.append (unbroken_ofList rfl) (unbroken_openName hname)) (unbroken_ofList rfl)
  have hblock := Heads.block hheader hbody (depthAfterAll?_of_flatAll hflat 0)
  rwa [headerOf?_openingLine] at hblock

/-! ### Class files -/

/-- The texts of a class file outside of its functions hold no line break. -/
structure ClassFile.Unbroken (file : ClassFile) : Prop where
  name : Text.Unbroken file.name
  library : ∀ library ∈ file.library, Text.Unbroken library
  registryName : Text.Unbroken file.registryName
  include? : ∀ path ∈ file.include?, Text.Unbroken path
  destructorName : Text.Unbroken file.destructorName
  tostringName : Text.Unbroken file.tostringName
  methods : ∀ r ∈ file.methods, Text.Unbroken r.identifier
  constants : ∀ r ∈ file.constants, Text.Unbroken r.identifier
  creators : ∀ r ∈ file.creators, Text.Unbroken r.identifier

/-- The headers behind the functions of a class file: its tables, and the function that opens the
class. -/
def ClassFile.libraryLines (file : ClassFile) : List String :=
  tableLine (file.name ++ "_member_methods")
    :: (if file.constants.isEmpty then [] else [constantLine file.name])
    ++ [tableLine (file.name ++ "_namespace_methods"), openingLine file.registryName]

namespace ClassFile

variable {file : ClassFile} (h : file.Unbroken)

include h

lemma heads_headSteps : Heads file.headSteps [] := by
  have hbanner := heads_banner
    (.append (unbroken_ofList rfl : Text.Unbroken "Bindings for class ") h.name)
  have hsupport : Heads [includeLine supportHeaderPath] [] :=
    heads_includeLine (unbroken_ofList rfl)
  have hinclude : Heads (file.include?.map includeLine).toList [] := by
    cases hpath : file.include? with
    | none => exact Heads.nil
    | some path => exact heads_includeLine (h.include? path hpath)
  refine (((hbanner.append hsupport).append hinclude).append Heads.blank).append_nil ?_
  cases hname : file.library with
  | none => exact Heads.nil
  | some library => exact heads_using (h.library library hname)

lemma unbroken_hookSteps : UnbrokenAll file.hookSteps := by
  have hname := h.name
  have hregistry := h.registryName
  have hdestructor := unbroken_definitionLine h.destructorName
  have htostring := unbroken_definitionLine h.tostringName
  simp only [hookSteps, userdataLine, UnbrokenAll, Step.Unbroken, unbroken_append, hname, hregistry,
    hdestructor, htostring, and_true, true_and]
  and_intros <;> exact unbroken_ofList rfl

lemma heads_hookSteps : Heads file.hookSteps
    [definitionLine file.destructorName, definitionLine file.tostringName] := by
  obtain ⟨hdestructor, -, htostring, -, -⟩ := unbroken_hookSteps h
  exact ((heads_function hdestructor rfl).append Heads.blank).append
    ((heads_function htostring rfl).append Heads.blank)

/-- The header of the table of constants, absent without constants. -/
lemma heads_constantSteps :
    Heads file.constantSteps (if file.constants.isEmpty then [] else [constantLine file.name]) := by
  rw [constantSteps]
  split
  · exact Heads.nil
  · have hheader : Text.Unbroken (constantLine file.name) :=
      .append (.append (unbroken_ofList rfl) h.name) (unbroken_ofList rfl)
    have hending : Text.Unbroken "\x7b NULL, 0 \x7d," := unbroken_ofList rfl
    have htable := Heads.enclosed hheader hending (unbrokenAll_tableRows h.constants)
      (flatAll_tableRows file.constants)
    rwa [headerOf?_constantLine] at htable

lemma heads_openSteps : Heads file.openSteps [openingLine file.registryName] := by
  have hname := h.name
  have hregistry := h.registryName
  have hlibrary : Text.Unbroken (file.library.getD globalTable) := by
    cases hlib : file.library with
    | none => decide
    | some library => exact h.library library hlib
  rw [openSteps]
  refine heads_open h.registryName ?_ ?_
  · have hconstants : UnbrokenAll (if file.constants.isEmpty then []
        else
          [.line "// register class constants",
           .line ("dub_register_const(L, " ++ file.name ++ "_const);"),
           .blank]) := by
      split
      · trivial
      · simp only [UnbrokenAll, Step.Unbroken, unbroken_append, hname, and_true]
        and_intros <;> exact unbroken_ofList rfl
    simp only [unbrokenAll_append, hconstants, UnbrokenAll, Step.Unbroken, unbroken_append, hname,
      hregistry, hlibrary, and_true, true_and]
    and_intros <;> exact unbroken_ofList rfl
  · refine Builder.flatAll_append (Builder.flatAll_append rfl ?_) rfl
    split <;> rfl

lemma heads_methods : Heads (functionTable (file.name ++ "_member_methods") file.methods)
    [tableLine (file.name ++ "_member_methods")] :=
  heads_functionTable (.append h.name (unbroken_ofList rfl : Text.Unbroken "_member_methods"))
    h.methods

lemma heads_creators : Heads (functionTable (file.name ++ "_namespace_methods") file.creators)
    [tableLine (file.name ++ "_namespace_methods")] :=
  heads_functionTable (.append h.name (unbroken_ofList rfl : Text.Unbroken "_namespace_methods"))
    h.creators

/-- A class file opens the functions of its constructors, its two hooks, the functions of its
members, its tables and itself, in this order. -/
lemma heads_steps {constructors members : List String}
    (hconstructors : Heads (file.constructors.flatMap fragmentSteps)
      (constructors.map definitionLine))
    (hmembers : Heads (file.members.flatMap fragmentSteps) (members.map definitionLine)) :
    Heads file.steps ((constructors ++ [file.destructorName, file.tostringName] ++ members).map
      definitionLine ++ file.libraryLines) := by
  have hfunctions := (((heads_headSteps h).append hconstructors).append
    (heads_hookSteps h)).append hmembers
  have hall : Heads file.steps _ :=
    (((hfunctions.append (heads_methods h)).append (heads_constantSteps h)).append
      (heads_creators h)).append (heads_openSteps h)
  simpa only [libraryLines, List.map_append, List.map_cons, List.map_nil, List.nil_append,
    List.append_assoc, List.cons_append] using hall

end ClassFile

/-! ### Namespace files -/

/-- The texts of a namespace file outside of its functions hold no line break. -/
structure NamespaceFile.Unbroken (file : NamespaceFile) : Prop where
  name : Text.Unbroken file.name
  includes : ∀ path ∈ file.includes, Text.Unbroken path
  rows : ∀ r ∈ file.rows, Text.Unbroken r.identifier

namespace NamespaceFile

variable {file : NamespaceFile} (h : file.Unbroken)

include h

/-- The lines above the first function open nothing. -/
lemma heads_head :
    Heads ([.lines (banner ("Bindings for namespace " ++ file.name)),
          includeLine supportHeaderPath]
      ++ file.includes.map includeLine
      ++ [.blank, .line ("using namespace " ++ file.name ++ ";"), .blank]) [] := by
  have hbanner := heads_banner
    (.append (unbroken_ofList rfl : Text.Unbroken "Bindings for namespace ") h.name)
  have hsupport : Heads [includeLine supportHeaderPath] [] :=
    heads_includeLine (unbroken_ofList rfl)
  have hincludes : Heads (file.includes.map includeLine) [] := by
    have hpaths : Heads (file.includes.flatMap fun path => [includeLine path])
        (file.includes.flatMap fun _ => []) :=
      Heads.flatMap fun path hpath => heads_includeLine (h.includes path hpath)
    rwa [← List.map_eq_flatMap, List.flatMap_eq_nil_iff.mpr fun _ _ => rfl] at hpaths
  exact ((hbanner.append hsupport).append hincludes).append
    (Heads.blank.append (heads_using h.name))

lemma heads_openSteps :
    Heads [.block (openingLine file.name) "\x7d"
      [.line ("luaL_register(L, \"" ++ file.name ++ "\", " ++ file.name ++ "_functions);"),
       .line "return 1;"]] [openingLine file.name] := by
  have hname := h.name
  refine heads_open hname ?_ rfl
  simp only [UnbrokenAll, Step.Unbroken, unbroken_append, hname, and_true]
  and_intros <;> exact unbroken_ofList rfl

lemma heads_rows : Heads (functionTable (file.name ++ "_functions") file.rows)
    [tableLine (file.name ++ "_functions")] :=
  heads_functionTable (.append h.name (unbroken_ofList rfl : Text.Unbroken "_functions")) h.rows

/-- A namespace file opens the functions of its slots, its table and itself. -/
lemma heads_steps {names : List String}
    (hfunctions : Heads (file.functions.flatMap fragmentSteps) (names.map definitionLine)) :
    Heads file.steps (names.map definitionLine
      ++ [tableLine (file.name ++ "_functions"), openingLine file.name]) := by
  have hall : Heads file.steps _ :=
    (((heads_head h).append hfunctions).append (heads_rows h)).append (heads_openSteps h)
  simpa only [List.nil_append, List.append_assoc, List.cons_append] using hall

end NamespaceFile

/-! ### Files of declarations -/

/-- The texts of a class that its file shows hold no line break, those of its kept functions
included. -/
@[mk_iff]
structure UnbrokenClass (o : Options) (c : ClassDecl) : Prop where
  name : Unbroken c.name
  library : ∀ library ∈ c.library, Unbroken library
  header : ∀ path ∈ c.header?, Unbroken (o.includePath path)
  constants : ∀ constant ∈ c.constants, Unbroken constant
  functions : ∀ f ∈ c.functions, isExcluded o f = false → f.Unbroken

/-- The texts of a namespace that its file shows hold no line break. -/
@[mk_iff]
structure UnbrokenFunctions (o : Options) (n : NamespaceDecl) : Prop where
  name : Unbroken n.name
  headers : ∀ path ∈ includesOf o (Member.leavesAll (keptSlots o n.functions)), Unbroken path
  functions : ∀ f ∈ n.freeFunctions, isExcluded o f = false → f.Unbroken

instance (o : Options) (c : ClassDecl) : Decidable (UnbrokenClass o c) :=
  decidable_of_iff' _ (unbrokenClass_iff o c)

instance (o : Options) (n : NamespaceDecl) : Decidable (UnbrokenFunctions o n) :=
  decidable_of_iff' _ (unbrokenFunctions_iff o n)

lemma writable_of_mem_keptSlots {o : Options} {ms : List (Member FunctionDecl)}
    (hms : ∀ f ∈ Member.leavesAll ms, isExcluded o f = false → f.Unbroken) :
    ∀ f ∈ Member.leavesAll (keptSlots o ms), Writable f := by
  intro f hf
  have hconvertible := isConvertible_of_mem_keptSlots o ms f hf
  rw [leavesAll_keptSlots, List.mem_filter] at hf
  exact ⟨hconvertible, hms f hf.1 (by simpa using hf.2)⟩

lemma writable_of_mem_keptConstructors {o : Options} {c : ClassDecl} (h : UnbrokenClass o c) :
    ∀ f ∈ keptConstructors o c, Writable f := by
  intro f hf
  have hconvertible := isConvertible_of_mem_keptConstructors o c f hf
  rw [keptConstructors, List.mem_filter] at hf
  exact ⟨hconvertible, h.functions f (List.mem_append_left _ hf.1) (by simpa using hf.2)⟩

lemma unbroken_of_mem_slotRows {ms : List (Member FunctionDecl)}
    (hms : ∀ f ∈ Member.leavesAll ms, Writable f) :
    ∀ r ∈ ms.flatMap slotRow, Unbroken r.identifier := by
  intro r hr
  obtain ⟨m, hm, hr⟩ := List.mem_flatMap.mp hr
  rw [slotRow] at hr
  obtain ⟨f, hf, rfl⟩ := List.mem_map.mp hr
  rw [Member.first?_eq_head?_leaves, Option.mem_toList] at hf
  have hmem := Member.mem_leavesAll.mpr ⟨m, hm, List.mem_of_head? hf⟩
  exact unbroken_identifier (hms f hmem).unbroken.scope (hms f hmem).unbroken.name _

lemma unbroken_ofKept {o : Options} {c : ClassDecl} (h : UnbrokenClass o c)
    (hconstructors : ∀ f ∈ keptConstructors o c, Writable f)
    (hmembers : ∀ f ∈ Member.leavesAll (keptSlots o c.members), Writable f) :
    (ClassFile.ofKept o c).Unbroken where
  name := h.name
  library := h.library
  registryName := by
    show Unbroken c.registryName
    rw [ClassDecl.registryName]
    split
    · next library hlibrary =>
        have hlib := h.library library hlibrary
        exact .append (.append hlib (unbroken_ofList rfl)) h.name
    · exact h.name
  include? := by
    intro path hpath
    obtain ⟨header, hheader, rfl⟩ := Option.map_eq_some_iff.mp hpath
    exact h.header header hheader
  destructorName := .append h.name (unbroken_ofList rfl)
  tostringName := .append h.name (unbroken_ofList rfl)
  methods := by
    have hhooks : ∀ r ∈
        [Row.mk "__tostring" c.tostringName, ⟨"__gc", c.destructorName⟩, deletedRow],
        Unbroken r.identifier := by
      simp only [List.forall_mem_cons]
      exact ⟨.append h.name (unbroken_ofList rfl),
        .append h.name (unbroken_ofList rfl), unbroken_ofList rfl,
        List.forall_mem_nil _⟩
    have hall := List.forall_mem_append.mpr ⟨unbroken_of_mem_slotRows hmembers, hhooks⟩
    intro r hr
    refine hall r ?_
    simpa [ClassFile.ofKept] using hr
  constants := by
    intro r hr
    obtain ⟨constant, hconstant, rfl⟩ := List.mem_map.mp hr
    exact .append (.append h.name (unbroken_ofList rfl)) (h.constants constant hconstant)
  creators := by
    intro r hr
    rw [ClassFile.ofKept] at hr
    dsimp only at hr
    cases hkept : keptConstructors o c with
    | nil => rw [hkept] at hr; cases hr
    | cons first rest =>
        rw [hkept] at hr hconstructors
        obtain ⟨name, -, rfl⟩ := List.mem_map.mp hr
        have hfirst := (hconstructors first List.mem_cons_self).unbroken
        exact unbroken_identifier hfirst.scope hfirst.name (some 0)

/-- The names that a class file defines. -/
def classDefinitions (o : Options) (c : ClassDecl) : List String :=
  constructorDefinitions (keptConstructors o c) ++ [c.destructorName, c.tostringName]
    ++ (keptSlots o c.members).flatMap slotDefinitions

/-- The file of a class opens the functions of its constructors, its two hooks and the functions of
its slots, then its tables and itself. -/
lemma heads_classFile {o : Options} {c : ClassDecl} (h : UnbrokenClass o c) :
    Heads (ClassFile.ofKept o c).steps
      ((classDefinitions o c).map definitionLine ++ (ClassFile.ofKept o c).libraryLines) := by
  have hconstructors := writable_of_mem_keptConstructors h
  have hmembers := writable_of_mem_keptSlots fun f hf =>
    h.functions f (List.mem_append_right c.constructors hf)
  exact ClassFile.heads_steps (unbroken_ofKept h hconstructors hmembers)
    (heads_constructorParts hconstructors) (heads_flatMap_slotParts hmembers)

lemma heads_namespaceFile {o : Options} {n : NamespaceDecl} (h : UnbrokenFunctions o n) :
    Heads (NamespaceFile.ofKept o n).steps
      (((keptSlots o n.functions).flatMap slotDefinitions).map definitionLine
        ++ [tableLine (n.name ++ "_functions"), openingLine n.name]) := by
  have hfunctions := writable_of_mem_keptSlots h.functions
  have hfile : (NamespaceFile.ofKept o n).Unbroken :=
    ⟨h.name, h.headers, unbroken_of_mem_slotRows hfunctions⟩
  exact NamespaceFile.heads_steps hfile (heads_flatMap_slotParts hfunctions)

/-- Headers define the functions that definitions open, whatever stands behind these. -/
lemma definedNames_render {steps : List Step} {names more : List String}
    (h : Heads steps (names.map definitionLine ++ more))
    (hmore : ∀ header ∈ more, definedName? header = none) :
    definedNames (render steps) = names := by
  rw [definedNames, h.filterMap_lines_render definedName?_eq_none_of_headerOf?,
    List.filterMap_append, filterMap_definedName?_map, List.filterMap_eq_nil_iff.mpr hmore,
    List.append_nil]

/-- The file of a class defines the functions of its constructors, its two hooks and the functions
of its slots. -/
lemma definedNames_classFile {o : Options} {c : ClassDecl} (h : UnbrokenClass o c) :
    definedNames (keptClassFile o c).content = classDefinitions o c := by
  rw [keptClassFile, ClassFile.text]
  refine definedNames_render (heads_classFile h) ?_
  simp only [ClassFile.libraryLines, List.forall_mem_append, List.forall_mem_cons]
  refine ⟨⟨definedName?_tableLine _, fun header hheader => ?_⟩, definedName?_tableLine _,
    definedName?_openingLine _, List.forall_mem_nil _⟩
  split at hheader
  · cases hheader
  · rw [List.mem_singleton.mp hheader]
    exact definedName?_constantLine _

/-- The file of a namespace defines the functions of its slots. -/
lemma definedNames_namespaceFile {o : Options} {n : NamespaceDecl} (h : UnbrokenFunctions o n) :
    definedNames (NamespaceFile.ofKept o n).text
      = (keptSlots o n.functions).flatMap slotDefinitions := by
  rw [NamespaceFile.text]
  refine definedNames_render (heads_namespaceFile h) ?_
  rw [List.forall_mem_cons, List.forall_mem_singleton]
  exact ⟨definedName?_tableLine _, definedName?_openingLine _⟩

/-! ### The support header -/

/-- A line without a line break that opens no C function. -/
structure PlainLine (line : String) : Prop where
  unbroken : Unbroken line
  undefined : definedName? line = none

/-- A line given by its characters is checked one by one. -/
lemma plainLine_ofList {cs : List Char} (hcs : (cs.all fun c => c != '\n' && c != '\r') = true)
    (hstart : definitionStart.isPrefixOf cs = false) : PlainLine (String.ofList cs) :=
  ⟨unbroken_ofList hcs, between?_eq_none_of_start hstart (by decide) _⟩

lemma plainLine_of_mem_supportHeaderLines : ∀ line ∈ supportHeaderLines, PlainLine line := by
  unfold supportHeaderLines
  repeat' first
    | exact List.forall_mem_nil _
    | refine List.forall_mem_cons.mpr ⟨plainLine_ofList rfl rfl, ?_⟩

/-- The text of the support header has these lines. -/
lemma lines_supportHeader : lines supportHeader = supportHeaderLines := by
  have hrows : ∀ rows : List String,
      String.join (rows.map (· ++ "\n")) = textOf .spaces (rows.map (⟨0, ·⟩)) := by
    intro rows
    induction rows with
    | nil => rfl
    | cons row rows ih =>
        rw [List.map_cons, String.join_cons, ih, List.map_cons, textOf, line_of_level_zero]
  have hplain : ∀ r ∈ supportHeaderLines.map (CodeRow.mk 0), Unbroken r.text := by
    intro r hr
    obtain ⟨line, hline, rfl⟩ := List.mem_map.mp hr
    exact (plainLine_of_mem_supportHeaderLines line hline).unbroken
  rw [supportHeader, hrows, lines_textOf .spaces hplain, List.map_map]
  exact (List.map_congr_left fun line _ => line_of_level_zero .spaces line).trans (List.map_id' _)

/-- The support header has no function that Lua calls by name. -/
lemma definedNames_supportHeader : definedNames supportHeader = [] := by
  rw [definedNames, lines_supportHeader, List.filterMap_eq_nil_iff]
  exact fun line hline => (plainLine_of_mem_supportHeaderLines line hline).undefined

end LuaBinder.Lua
