import LuaBinder.Proofs.Doxygen.Loading
import LuaBinder.Proofs.Lua.Coverage
import LuaBinder.Proofs.Text.Identifier

/-!
When the names that generated files define are identifiers of C.

The name of the namespace stands as it is in the functions and the table of its file, and in every
function that opens a library only its dots are replaced. The colons of a nested namespace stay.
The names are those of the compounds as they are read, whatever reads them.

* `introducedNames`: the names of the C functions, the tables and the library functions of a text.
* `introducedNames_classFile`, `introducedNames_namespaceFile`: those of the files of a namespace.
* `forall_classFile_iff`, `forall_namespaceFile_iff`: when all names of a file are identifiers.
* `identifiers_iff`: when all names that are defined for a loaded namespace are.
-/

namespace LuaBinder.Lua

open Code Doxygen Store Text

/-! ### Reading names -/

/-- The name in a line that opens a table of functions or of constants. -/
def tableName? (line : String) : Option String :=
  (between? "static const struct luaL_Reg " "[] = \x7b" line).or
    (between? "static const struct dub_const_Reg " "[] = \x7b" line)

/-- The name in a line that opens the function of a library. -/
def libraryName? (line : String) : Option String :=
  between? "extern \"C\" int " "(lua_State *L) \x7b" line

/-- The name that a line defines. -/
def introducedName? (line : String) : Option String :=
  (definedName? line).or ((tableName? line).or (libraryName? line))

/-- The names that the lines of a text define. -/
def introducedNames (text : String) : List String := (lines text).filterMap introducedName?

lemma introducedName?_definitionLine (name : String) :
    introducedName? (definitionLine name) = some name := by
  rw [introducedName?, definedName?_definitionLine, Option.some_or]

lemma introducedName?_tableLine (name : String) :
    introducedName? (tableLine name) = some name := by
  have hline : tableLine name = "static const struct luaL_Reg " ++ name ++ "[] = \x7b" := by
    rw [tableLine_eq, String.append_assoc]
  have htable := between?_eq_some_iff.mpr hline
  rw [introducedName?, definedName?_tableLine, Option.none_or, tableName?, htable, Option.some_or,
    Option.some_or]

lemma introducedName?_constantLine (name : String) :
    introducedName? (constantLine name) = some (name ++ "_const") := by
  have hfunctions : between? "static const struct luaL_Reg " "[] = \x7b" (constantLine name)
      = none := by
    rw [constantLine_eq]
    exact between?_eq_none_of_apart rfl rfl _ _
  have hline : constantLine name
      = "static const struct dub_const_Reg " ++ (name ++ "_const") ++ "[] = \x7b" := by
    have hback : "_const[] = \x7b" = "_const" ++ "[] = \x7b" := by decide +kernel
    rw [constantLine_eq, hback, String.append_assoc, String.append_assoc]
  have hconstants := between?_eq_some_iff.mpr hline
  rw [introducedName?, definedName?_constantLine, Option.none_or, tableName?, hfunctions,
    Option.none_or, hconstants, Option.some_or]

lemma introducedName?_openingLine (registryName : String) :
    introducedName? (openingLine registryName) = some ("luaopen_" ++ openName registryName) := by
  have htable : tableName? (openingLine registryName) = none := by
    rw [tableName?, openingLine_eq, between?_eq_none_of_apart rfl rfl,
      between?_eq_none_of_apart rfl rfl, Option.none_or]
  have hline : openingLine registryName
      = "extern \"C\" int " ++ ("luaopen_" ++ openName registryName) ++ "(lua_State *L) \x7b" := by
    have hfront : "extern \"C\" int luaopen_" = "extern \"C\" int " ++ "luaopen_" := by
      decide +kernel
    rw [openingLine_eq, hfront, String.append_assoc, String.append_assoc, String.append_assoc]
  have hlibrary := between?_eq_some_iff.mpr hline
  rw [introducedName?, definedName?_openingLine, Option.none_or, htable, Option.none_or,
    libraryName?, hlibrary]

/-- Only a line that opens something defines a name. -/
lemma introducedName?_eq_none_of_headerOf? (line : String) (h : headerOf? line = none) :
    introducedName? line = none := by
  rw [introducedName?, tableName?, libraryName?, definedName?_eq_none_of_headerOf? line h,
    between?_eq_none_of_quiet rfl h, between?_eq_none_of_quiet rfl h,
    between?_eq_none_of_quiet rfl h]
  rfl

/-- The rendered text defines what its headers define. -/
lemma introducedNames_render {steps : List Step} {names more : List String}
    (h : Heads steps (names.map definitionLine ++ more)) :
    introducedNames (render steps) = names ++ more.filterMap introducedName? := by
  have hnames : (names.map definitionLine).filterMap introducedName? = names := by
    rw [List.filterMap_map]
    exact (List.filterMap_congr fun name _ => introducedName?_definitionLine name).trans
      List.filterMap_some
  rw [introducedNames, h.filterMap_lines_render introducedName?_eq_none_of_headerOf?,
    List.filterMap_append, hnames]

/-! ### Files -/

/-- The names of the tables of a class and of the function that opens it. -/
def libraryNames (c : ClassDecl) : List String :=
  (c.name ++ "_member_methods")
    :: (if c.constants.isEmpty then [] else [c.name ++ "_const"])
    ++ [c.name ++ "_namespace_methods", "luaopen_" ++ openName c.registryName]

/-- The file of a class defines its functions, its tables and the function that opens it. -/
lemma introducedNames_classFile {o : Options} {c : ClassDecl} (h : UnbrokenClass o c) :
    introducedNames (keptClassFile o c).content = classDefinitions o c ++ libraryNames c := by
  have hname : (ClassFile.ofKept o c).name = c.name := rfl
  have hregistry : (ClassFile.ofKept o c).registryName = c.registryName := rfl
  have hconstants : (ClassFile.ofKept o c).constants = constantRows c := rfl
  have hlibrary : (ClassFile.ofKept o c).libraryLines.filterMap introducedName?
      = libraryNames c := by
    rw [ClassFile.libraryLines, hname, hregistry, hconstants, constantRows, List.isEmpty_map,
      libraryNames]
    cases c.constants.isEmpty <;>
      simp [introducedName?_tableLine, introducedName?_constantLine, introducedName?_openingLine]
  rw [keptClassFile, ClassFile.text, introducedNames_render (heads_classFile h), hlibrary]

/-- The file of a namespace defines its functions, its table and the function that opens it. -/
lemma introducedNames_namespaceFile {o : Options} {n : NamespaceDecl} (h : UnbrokenFunctions o n) :
    introducedNames (NamespaceFile.ofKept o n).text
      = (keptSlots o n.functions).flatMap slotDefinitions
        ++ [n.name ++ "_functions", "luaopen_" ++ openName n.name] := by
  rw [NamespaceFile.text, introducedNames_render (heads_namespaceFile h)]
  simp only [List.filterMap_cons, introducedName?_tableLine, introducedName?_openingLine,
    List.filterMap_nil]

/-- Of the support header nothing is named in this way. -/
lemma introducedNames_supportHeader : introducedNames supportHeader = [] := by
  have hline : ∀ cs : List Char, ['s', 't', 'a', 't', 'i', 'c', ' '].isPrefixOf cs = false →
      ['e', 'x', 't', 'e', 'r', 'n', ' ', '\"', 'C', '\"', ' ', 'i'].isPrefixOf cs = false →
        introducedName? (String.ofList cs) = none := by
    intro cs hstatic hextern
    rw [introducedName?, definedName?, tableName?, libraryName?,
      between?_eq_none_of_start hstatic (by decide), between?_eq_none_of_start hstatic (by decide),
      between?_eq_none_of_start hstatic (by decide), between?_eq_none_of_start hextern (by decide)]
    rfl
  rw [introducedNames, lines_supportHeader, List.filterMap_eq_nil_iff]
  unfold supportHeaderLines
  repeat' first
    | exact List.forall_mem_nil _
    | refine List.forall_mem_cons.mpr ⟨hline _ rfl rfl, ?_⟩

/-! ### Identifiers of C -/

/-- Functions with identifiers as names have such names in C, with their numbers and without. -/
lemma isIdentifier_of_spells {scope : String} {fs : List FunctionDecl} {names : List String}
    (h : Spells scope fs names) (hscope : isIdentifier scope = true)
    (hfs : ∀ f ∈ fs, isIdentifier f.name = true) : ∀ x ∈ names, isIdentifier x = true := by
  intro x hx
  obtain ⟨f, hf, rfl | rfl⟩ := (h.mem_iff x).mp hx
  · exact isIdentifier_underscore hscope (hfs f hf)
  · refine isIdentifier_underscore hscope ?_
    rcases spelled_cases f with hbare | ⟨i, hnumber⟩
    · rw [hbare]
      exact hfs f hf
    · rw [hnumber]
      exact isIdentifier_append_toString (hfs f hf) (i + 1)

/-- A character of a registry name that leaves an identifier behind: a dot is replaced. -/
def opensIdentifier (c : Char) : Bool := c == '.' || isIdentifierRest c

/-- Only dots are replaced in the name of the function that opens a library. -/
lemma isIdentifier_opening (registryName : String) :
    isIdentifier ("luaopen_" ++ openName registryName)
      = registryName.toList.all opensIdentifier := by
  rw [isIdentifier_append (by decide), openName, String.toList_ofList, List.all_map]
  congr 1
  funext c
  rw [Function.comp_apply, opensIdentifier]
  by_cases hdot : (c == '.') = true
  · rw [if_pos hdot, hdot, Bool.true_or]
    decide
  · rw [if_neg hdot, Bool.eq_false_iff.mpr hdot, Bool.false_or]

/-- A qualified name is good enough for this exactly when it has one part. -/
lemma all_opensIdentifier_iff {parts : List String} {name : String} (h : Qualifies parts name) :
    name.toList.all opensIdentifier = true ↔ parts.length = 1 := by
  rw [List.all_eq_true]
  constructor
  · intro hname
    refine h.length_eq_one_of_forall fun c hc heq => ?_
    exact absurd (heq ▸ hname c hc) (by decide)
  · intro hlength c hc
    have hrest := List.all_eq_true.mp (rest_of_isIdentifier (h.isIdentifier_iff.mpr hlength)) c hc
    rw [opensIdentifier, hrest, Bool.or_true]

lemma isIdentifier_luaopen_iff {parts : List String} {library : String}
    (h : Qualifies parts library) {source : ClassSource} (hname : isIdentifier source.name = true) :
    isIdentifier ("luaopen_" ++ openName (ClassDecl.ofSource (some library) source).registryName)
      = true ↔ parts.length = 1 := by
  have hregistry : (ClassDecl.ofSource (some library) source).registryName
      = library ++ "." ++ source.name := rfl
  have hdot : ".".toList.all opensIdentifier = true := by decide
  have hclass : source.name.toList.all opensIdentifier = true := by
    rw [List.all_eq_true]
    intro c hc
    have hrest := List.all_eq_true.mp (rest_of_isIdentifier hname) c hc
    rw [opensIdentifier, hrest, Bool.or_true]
  rw [isIdentifier_opening, hregistry, String.toList_append, String.toList_append, List.all_append,
    List.all_append, hdot, hclass, Bool.and_true, Bool.and_true, all_opensIdentifier_iff h]

/-- In the file of a class only the function that opens it bears the name of the namespace. -/
lemma forall_classFile_iff {o : Options} {parts : List String} {library : String}
    (hlibrary : Qualifies parts library) {source : ClassSource}
    (h : UnbrokenClass o (.ofSource (some library) source))
    (hname : isIdentifier source.name = true)
    (hfs : ∀ f ∈ keptFunctions o (ClassDecl.ofSource (some library) source).functions,
      isIdentifier f.name = true) :
    (∀ x ∈ introducedNames (keptClassFile o (.ofSource (some library) source)).content,
        isIdentifier x = true) ↔ parts.length = 1 := by
  have hfunctions := isIdentifier_of_spells (spells_class o (some library) source) hname hfs
  rw [List.forall_mem_append] at hfunctions
  have hrest : ∀ rest : String, rest.toList.all isIdentifierRest = true →
      isIdentifier (source.name ++ rest) = true := fun rest => (isIdentifier_append hname rest).trans
  have hdefinitions : ∀ x ∈ classDefinitions o (.ofSource (some library) source),
      isIdentifier x = true := by
    simp only [classDefinitions, List.forall_mem_append, List.forall_mem_cons]
    exact ⟨⟨hfunctions.1, hrest "_destructor" (by decide), hrest "__tostring" (by decide),
      List.forall_mem_nil _⟩, hfunctions.2⟩
  rw [introducedNames_classFile h, ← isIdentifier_luaopen_iff hlibrary hname]
  constructor
  · intro hall
    refine hall _ (List.mem_append_right _ (List.mem_append_right _ ?_))
    exact List.mem_cons_of_mem _ List.mem_cons_self
  · intro hopen
    simp only [libraryNames, List.forall_mem_append, List.forall_mem_cons]
    refine ⟨hdefinitions, ⟨hrest "_member_methods" (by decide), fun x hx => ?_⟩,
      hrest "_namespace_methods" (by decide), hopen, List.forall_mem_nil _⟩
    split at hx
    · cases hx
    · rw [List.mem_singleton.mp hx]
      exact hrest "_const" (by decide)

/-- In the file of the free functions everything bears it. -/
lemma forall_namespaceFile_iff {o : Options} {parts : List String} {name : String}
    (hname : Qualifies parts name) {classes : List ClassSource} {functions : List Element}
    (h : UnbrokenFunctions o (.ofSources name classes functions))
    (hfs : ∀ f ∈ keptFunctions o (NamespaceDecl.ofSources name classes functions).freeFunctions,
      isIdentifier f.name = true) :
    (∀ x ∈ introducedNames (NamespaceFile.ofKept o (.ofSources name classes functions)).text,
        isIdentifier x = true) ↔ parts.length = 1 := by
  have hopen : isIdentifier ("luaopen_" ++ openName name) = true ↔ parts.length = 1 := by
    rw [isIdentifier_opening, all_opensIdentifier_iff hname]
  rw [introducedNames_namespaceFile h, List.forall_mem_append, List.forall_mem_cons,
    List.forall_mem_singleton, ← hopen]
  refine ⟨fun hall => hall.2.2, fun hall => ?_⟩
  have hscope := hname.isIdentifier_iff.mpr (hopen.mp hall)
  have hspells := spells_keptSlots o (grouping_ofSources name classes functions)
  exact ⟨isIdentifier_of_spells hspells hscope hfs,
    (isIdentifier_append hscope "_functions").trans (by decide), hall⟩

/-! ### Loaded namespaces -/

/-- There is no file of free functions exactly when none of them is kept. -/
lemma keptNamespaceFile?_eq_none_iff {o : Options} {n : NamespaceDecl} :
    keptNamespaceFile? o n = none ↔ keptFunctions o n.freeFunctions = [] := by
  rw [← Option.not_isSome_iff_eq_none, isSome_keptNamespaceFile?_iff, keptFunctions,
    List.filter_eq_nil_iff]
  push Not
  refine forall₂_congr fun f _ => ?_
  rw [isExcluded]
  cases exclusion? o f <;> simp

lemma content_of_keptNamespaceFile? {o : Options} {n : NamespaceDecl} {file : GeneratedFile}
    (h : file ∈ keptNamespaceFile? o n) : file.content = (NamespaceFile.ofKept o n).text := by
  rw [keptNamespaceFile?] at h
  split at h
  · cases h
  · cases h
    rfl

/-- What decides about every binding source decides about all files, unless there is no source. -/
lemma forall_keptFiles_iff {o : Options} {n : NamespaceDecl} {P : GeneratedFile → Prop} {Q : Prop}
    (hsupport : P supportFile) (hclasses : ∀ c ∈ n.classes, (P (keptClassFile o c) ↔ Q))
    (hfree : ∀ file ∈ keptNamespaceFile? o n, (P file ↔ Q)) :
    (∀ file ∈ keptFiles o n, P file)
      ↔ Q ∨ n.classes = [] ∧ keptFunctions o n.freeFunctions = [] := by
  have hclassFiles : (∀ c ∈ n.classes, P (keptClassFile o c)) ↔ Q ∨ n.classes = [] := by
    rw [forall₂_congr hclasses]
    cases n.classes with
    | nil => simp
    | cons c cs => simpa using fun hQ _ _ => hQ
  have hfreeFile : (∀ file ∈ (keptNamespaceFile? o n).toList, P file)
      ↔ Q ∨ keptFunctions o n.freeFunctions = [] := by
    rw [← keptNamespaceFile?_eq_none_iff]
    cases hfile : keptNamespaceFile? o n with
    | none => simp
    | some file => simp [hfree file hfile]
  simp only [keptFiles, List.forall_mem_append, List.forall_mem_map, List.forall_mem_singleton]
  rw [and_iff_left hsupport, hclassFiles, hfreeFile, or_and_left]

/-- A namespace with the class `Box` and the function `reset`. -/
def scopedDirectory (own : String) : FileSystem where
  entries := [
    (["xml"], .directory),
    (["xml", "index.xml"], .file <| String.toUTF8 <|
      "<doxygenindex><compound refid=\"own\" kind=\"namespace\"><name>" ++ own
        ++ "</name></compound></doxygenindex>"),
    (["xml", "own.xml"], .file <| String.toUTF8 <|
      "<doxygen><compounddef><innerclass refid=\"box\"/><sectiondef>"
        ++ "<memberdef kind=\"function\"><type>void</type><name>reset</name>"
        ++ "<argsstring>()</argsstring></memberdef></sectiondef></compounddef></doxygen>"),
    (["xml", "box.xml"], .file <| String.toUTF8 <|
      "<doxygen><compounddef><compoundname>" ++ own ++ "::Box</compoundname></compounddef>"
        ++ "</doxygen>")]

/-- **Identifiers.** Let the classes of a loaded namespace and its functions that are kept be named
by identifiers, and the namespace by identifiers with `::` between them. All names that its files
define are identifiers exactly when the namespace is not nested or nothing of it is bound. -/
theorem identifiers_iff {fs : FileSystem} {root : String} {name : Option String} {n : NamespaceDecl}
    {parts : List String} (h : loadNamespace fs root name = .ok n) (o : Options)
    (hparts : Qualifies parts n.name)
    (hclasses : ∀ c ∈ n.classes, UnbrokenClass o c ∧ isIdentifier c.name = true)
    (hfree : UnbrokenFunctions o n)
    (hnames : ∀ f ∈ keptFunctions o n.allFunctions, isIdentifier f.name = true) :
    ∃ files, preview o (boundTo o n).1 (boundTo o n).2 n = .ok files
      ∧ ((∀ file ∈ files, ∀ x ∈ introducedNames file.content, isIdentifier x = true)
        ↔ parts.length = 1 ∨ n.classes = [] ∧ keptFunctions o n.freeFunctions = []) := by
  obtain ⟨entry, definition, definitions, -, rfl⟩ := loadNamespace_eq_ok_iff.mp h
  rw [keptFunctions_allFunctions, List.forall_mem_append] at hnames
  refine ⟨_, preview_boundTo o _, forall_keptFiles_iff ?_ (fun c hc => ?_) fun file hfile => ?_⟩
  · rw [show supportFile.content = supportHeader from rfl, introducedNames_supportHeader]
    exact List.forall_mem_nil _
  · obtain ⟨hunbroken, hname⟩ := hclasses c hc
    have hfs : ∀ f ∈ keptFunctions o c.functions, isIdentifier f.name = true := fun f hf =>
      hnames.1 f (List.mem_flatMap.mpr ⟨c, hc, hf⟩)
    obtain ⟨source, -, rfl⟩ := List.mem_map.mp hc
    exact forall_classFile_iff hparts hunbroken hname hfs
  · rw [content_of_keptNamespaceFile? hfile]
    exact forall_namespaceFile_iff hparts hfree hnames.2

/-- In the namespace `lib` all names are identifiers. -/
theorem identifiers_lib :
    ∃ n, loadNamespace (scopedDirectory "lib") "xml" (some "lib") = .ok n
      ∧ Qualifies ["lib"] n.name
      ∧ (∀ c ∈ n.classes, UnbrokenClass {} c ∧ isIdentifier c.name = true)
      ∧ UnbrokenFunctions {} n
      ∧ (∀ f ∈ keptFunctions {} n.allFunctions, isIdentifier f.name = true)
      ∧ ∃ files, preview {} (boundTo {} n).1 (boundTo {} n).2 n = .ok files
        ∧ ∀ file ∈ files, ∀ x ∈ introducedNames file.content, isIdentifier x = true := by
  obtain ⟨n, hload, hname, hclasses, hfree, hnames⟩ : ∃ n,
      loadNamespace (scopedDirectory "lib") "xml" (some "lib") = .ok n
        ∧ n.name = "lib"
        ∧ (∀ c ∈ n.classes, UnbrokenClass {} c ∧ isIdentifier c.name = true)
        ∧ UnbrokenFunctions {} n
        ∧ ∀ f ∈ keptFunctions {} n.allFunctions, isIdentifier f.name = true :=
    exists_eq_ok_of_any (by decide +kernel)
  have hparts : Qualifies ["lib"] n.name := ⟨by decide, hname, by decide⟩
  obtain ⟨files, hfiles, hiff⟩ := identifiers_iff hload {} hparts hclasses hfree hnames
  exact ⟨n, hload, hparts, hclasses, hfree, hnames, files, hfiles, hiff.mpr (.inl rfl)⟩

/-- In the nested namespace `a::b` the class and the function are named by identifiers, but the
function, the table and the library in C are not. -/
theorem identifiers_nested :
    ∃ n, loadNamespace (scopedDirectory "a::b") "xml" (some "a::b") = .ok n
      ∧ Qualifies ["a", "b"] n.name
      ∧ (∀ c ∈ n.classes, isIdentifier c.name = true)
      ∧ (∀ f ∈ n.allFunctions, isIdentifier f.name = true)
      ∧ ∃ files, preview {} (boundTo {} n).1 (boundTo {} n).2 n = .ok files
        ∧ ∃ file ∈ files,
          introducedNames file.content = ["a::b_reset", "a::b_functions", "luaopen_a::b"]
            ∧ ∀ x ∈ introducedNames file.content, isIdentifier x = false := by
  obtain ⟨n, hload, hname, hclasses, hnames, hfree, hsome, hdefinitions⟩ : ∃ n,
      loadNamespace (scopedDirectory "a::b") "xml" (some "a::b") = .ok n
        ∧ n.name = "a::b"
        ∧ (∀ c ∈ n.classes, isIdentifier c.name = true)
        ∧ (∀ f ∈ n.allFunctions, isIdentifier f.name = true)
        ∧ UnbrokenFunctions {} n
        ∧ (keptNamespaceFile? {} n).isSome = true
        ∧ (keptSlots {} n.functions).flatMap slotDefinitions = ["a::b_reset"] :=
    exists_eq_ok_of_any (by decide +kernel)
  have hparts : Qualifies ["a", "b"] n.name := ⟨by decide, hname.trans (by decide), by decide⟩
  obtain ⟨file, hfile⟩ := Option.isSome_iff_exists.mp hsome
  have hintroduced : introducedNames file.content
      = ["a::b_reset", "a::b_functions", "luaopen_a::b"] := by
    rw [content_of_keptNamespaceFile? hfile, introducedNames_namespaceFile hfree, hdefinitions,
      hname]
    decide +kernel
  refine ⟨n, hload, hparts, hclasses, hnames, _, preview_boundTo {} n, file, ?_, hintroduced, ?_⟩
  · rw [keptFiles, hfile]
    exact List.mem_append_left _ (List.mem_append_right _ List.mem_cons_self)
  · rw [hintroduced]
    decide +kernel

end LuaBinder.Lua
