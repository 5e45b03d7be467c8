import LuaBinder.Proofs.Lua.Spelling

/-!
The functions that a binding source wraps, read off its lines.

A wrapper opens a `try` block in its first line, which neither a chooser nor a hook does.

* `wrapperNames`: the names of the C functions that open a `try` block in their first line.
* `Wraps`: the names that steps write in this way; `Wraps.append` puts them together, and
  `piecewise_wraps` finds those of the parts of a file.
* `wrapperNames_classFile`, `wrapperNames_namespaceFile`: in the files of a namespace these are the
  identifiers of the functions that are kept, in order.
-/

namespace LuaBinder.Lua

open Code Text

/-! ### Reading wrappers -/

/-- The first line of a wrapper. -/
def tryLine : String := "  try \x7b"

/-- The names of the C functions that are opened right above such a line. -/
def wrapperNamesIn : List String → List String
  | [] => []
  | line :: rest =>
    (if rest.head? = some tryLine then (definedName? line).toList else []) ++ wrapperNamesIn rest

/-- The names of the C functions of a text that open a `try` block in their first line. -/
def wrapperNames (text : String) : List String := wrapperNamesIn (lines text)

/-- Lines that open nothing at their end do not run into the lines behind them. -/
lemma wrapperNamesIn_append {rows more : List String}
    (h : ∀ line ∈ rows.getLast?, definedName? line = none) :
    wrapperNamesIn (rows ++ more) = wrapperNamesIn rows ++ wrapperNamesIn more := by
  induction rows with
  | nil => rfl
  | cons line rows ih =>
      cases rows with
      | nil =>
          have hline : definedName? line = none := h line rfl
          simp [wrapperNamesIn, hline]
      | cons next rows =>
          rw [List.cons_append, wrapperNamesIn, ih h, ← List.append_assoc]
          rfl

lemma wrapperNamesIn_eq_nil {rows : List String} (h : ∀ line ∈ rows, definedName? line = none) :
    wrapperNamesIn rows = [] := by
  induction rows with
  | nil => rfl
  | cons line rows ih =>
      obtain ⟨hline, hrows⟩ := List.forall_mem_cons.mp h
      rw [wrapperNamesIn, hline, ih hrows]
      simp

/-! ### Steps -/

/-- The lines that steps write from the outermost level on. -/
def rowLines (steps : List Step) : List String := (rowsAll 0 steps).map (CodeRow.line .spaces)

/-- The steps wrap the functions of the given names, in order, and end with a line that opens
nothing. -/
structure Wraps (steps : List Step) (names : List String) : Prop where
  yields : ∃ defined, Yields steps defined
  names : wrapperNamesIn (rowLines steps) = names
  ended : ∀ line ∈ (rowLines steps).getLast?, definedName? line = none

namespace Wraps

variable {steps more : List Step} {names others : List String}

lemma append (h : Wraps steps names) (h' : Wraps more others) :
    Wraps (steps ++ more) (names ++ others) := by
  obtain ⟨defined, hyields⟩ := h.yields
  obtain ⟨defined', hyields'⟩ := h'.yields
  have hlines : rowLines (steps ++ more) = rowLines steps ++ rowLines more := by
    rw [rowLines, rowsAll_append, hyields.level, List.map_append]
    rfl
  refine ⟨⟨_, hyields.append hyields'⟩, ?_, ?_⟩
  · rw [hlines, wrapperNamesIn_append h.ended, h.names, h'.names]
  · intro line hline
    rw [hlines, List.getLast?_append] at hline
    cases hlast : (rowLines more).getLast? with
    | none =>
        rw [hlast, Option.none_or] at hline
        exact h.ended line hline
    | some last =>
        rw [hlast, Option.some_or] at hline
        exact h'.ended line (hlast ▸ hline)

/-- Steps that define nothing wrap nothing. -/
lemma of_yields_nil (h : Yields steps []) : Wraps steps [] := by
  have hnone : ∀ line ∈ rowLines steps, definedName? line = none := by
    intro line hline
    obtain ⟨r, hr, rfl⟩ := List.mem_map.mp hline
    exact List.filterMap_eq_nil_iff.mp h.names r hr
  exact ⟨⟨[], h⟩, wrapperNamesIn_eq_nil hnone, fun line hline =>
    hnone line (List.mem_of_getLast? hline)⟩

lemma nil : Wraps [] [] := of_yields_nil Yields.nil

lemma append_nil (h : Wraps steps names) (h' : Yields more []) : Wraps (steps ++ more) names := by
  have hall := h.append (of_yields_nil h')
  rwa [List.append_nil] at hall

lemma nil_append (h : Yields steps []) (h' : Wraps more names) : Wraps (steps ++ more) names :=
  (of_yields_nil h).append h'

/-- The rendered text wraps what the steps wrap. -/
lemma wrapperNames_render (h : Wraps steps names) : wrapperNames (render steps) = names := by
  obtain ⟨defined, hyields⟩ := h.yields
  rw [wrapperNames, lines_render hyields.unbroken]
  exact h.names

end Wraps

/-! ### Wrappers, choosers and hooks -/

/-- A C function is wrapped exactly when its first line opens a `try` block. -/
lemma wraps_function {name first : String} {rest : List Step}
    (h : (Step.block (definitionLine name) "\x7d" (.line first :: rest)).Unbroken)
    (hdepth : depthAfterAll? 0 (.line first :: rest) = some 0) :
    Wraps [.block (definitionLine name) "\x7d" (.line first :: rest)]
      (if first = "try \x7b" then [name] else []) := by
  obtain ⟨hlevel, hrows⟩ := inside_of_mem_rowsAll 1 hdepth
  have hclose : definedName? "\x7d" = none := by decide
  have hall : rowLines [.block (definitionLine name) "\x7d" (.line first :: rest)]
      = definitionLine name :: (("  " ++ first) :: (rowsAll 1 rest).map (CodeRow.line .spaces)
        ++ ["\x7d"]) := by
    rw [rowLines, rowsAll, Step.rows, rowsAll, List.append_nil, hlevel]
    simp [rowsAll, Step.rows, Step.levelAfter, CodeRow.line, indentation, IndentStyle.unit]
  -- below its header a block holds indented rows and the brace that closes it
  have hnone : ∀ line ∈ ("  " ++ first) :: (rowsAll 1 rest).map (CodeRow.line .spaces) ++ ["\x7d"],
      definedName? line = none := by
    have hinner : ∀ r ∈ rowsAll 1 (.line first :: rest), definedName? (r.line .spaces) = none :=
      fun r hr => rowName?_of_inside (hrows r hr)
    rw [rowsAll, Step.rows, List.singleton_append, List.forall_mem_cons] at hinner
    rw [List.forall_mem_append, List.forall_mem_cons, List.forall_mem_map,
      List.forall_mem_singleton]
    exact ⟨⟨definedName?_append rfl first, hinner.2⟩, hclose⟩
  refine ⟨⟨_, yields_function h hdepth⟩, ?_, ?_⟩
  · rw [hall, wrapperNamesIn, wrapperNamesIn_eq_nil hnone, definedName?_definitionLine,
      List.append_nil, List.cons_append, List.head?_cons]
    have htry : some ("  " ++ first) = some tryLine ↔ first = "try \x7b" := by
      rw [Option.some_inj, show tryLine = "  " ++ "try \x7b" from by decide,
        String.append_right_inj]
    simp only [htry, Option.toList_some]
  · intro line hline
    rw [hall, List.getLast?_cons, List.getLast?_append] at hline
    cases hline
    exact hclose

/-- The comment above a definition wraps nothing. -/
lemma wraps_definition {rows : List String} {name first : String} {rest : List Step}
    (h : UnbrokenAll [.comment rows, .block (definitionLine name) "\x7d" (.line first :: rest)])
    (hdepth : depthAfterAll? 0 (.line first :: rest) = some 0) :
    Wraps [.comment rows, .block (definitionLine name) "\x7d" (.line first :: rest)]
      (if first = "try \x7b" then [name] else []) :=
  Wraps.nil_append (Yields.comment h.1) (wraps_function h.2.1 hdepth)

lemma Wrapper.wraps_steps {w : Wrapper} (hw : w.Unbroken) : Wraps w.steps [w.name] :=
  wraps_definition (Wrapper.unbroken_steps hw) w.depth_bodySteps

lemma Chooser.wraps_steps {c : Chooser} (hc : c.Unbroken) : Wraps c.steps [] :=
  wraps_definition (Chooser.unbroken_steps hc) c.depth_bodySteps

/-- The hooks of a class start by reading the object. -/
lemma ClassFile.wraps_hookSteps {file : ClassFile} (h : file.Unbroken) :
    Wraps file.hookSteps [] := by
  have huserdata : "DubUserdata *userdata = (DubUserdata *)luaL_checkudata(L, 1, \""
      ++ file.registryName ++ "\");" ≠ "try \x7b" := by
    intro heq
    have hhead := congrArg (fun s => s.toList.head?) heq
    simp at hhead
  obtain ⟨hdestructor, -, htostring, -, -⟩ := unbroken_hookSteps h
  have hfirst := wraps_function hdestructor rfl
  have hsecond := wraps_function htostring rfl
  rw [if_neg huserdata] at hfirst hsecond
  exact (hfirst.append_nil Yields.blank).append (hsecond.append_nil Yields.blank)

/-! ### Parts of a file -/

/-- A part of a file wraps what its own steps wrap. -/
lemma wraps_fragmentSteps {part : Fragment} {steps : List Step} {names : List String}
    (h : Wraps steps names) (htext : part.text = render steps) :
    Wraps (fragmentSteps part) names := by
  obtain ⟨defined, hyields⟩ := h.yields
  have hlines : rowLines (fragmentSteps part) = rowLines steps ++ [""] := by
    have hofLine : ∀ row, CodeRow.line .spaces (.ofLine 0 row) = row := by
      intro row
      rw [CodeRow.ofLine, ite_self]
      exact String.empty_append
    rw [fragmentSteps, htext, rowLines, rowsAll, Step.rows, lines_render hyields.unbroken,
      List.map_append, List.map_map]
    simp only [Function.comp_def, hofLine, List.map_map]
    rfl
  have hempty : definedName? "" = none := by decide
  refine ⟨⟨_, yields_fragmentSteps hyields htext⟩, ?_, ?_⟩
  · rw [hlines, wrapperNamesIn_append h.ended, h.names, wrapperNamesIn_eq_nil (by simp [hempty]),
      List.append_nil]
  · intro line hline
    rw [hlines, List.getLast?_append] at hline
    cases hline
    exact hempty

/-- The parts of a file wrap one function after the other, and choosers wrap none. -/
lemma piecewise_wraps : Piecewise Writable fun fs parts =>
    Wraps (parts.flatMap fragmentSteps) (fs.map (identifier · none)) where
  nil := Wraps.nil
  append h h' := by
    rw [List.flatMap_append, List.map_append]
    exact h.append h'
  wrapper := by
    intro f hf
    obtain ⟨w, hw, hname, htext⟩ := exists_unbroken_wrapper hf
    rw [List.flatMap_singleton, List.map_singleton, ← hname]
    exact wraps_fragmentSteps (Wrapper.wraps_steps hw) htext
  chooser := by
    intro fs hfs
    rw [List.flatMap_singleton]
    cases fs with
    | nil => exact wraps_fragmentSteps Wraps.nil rfl
    | cons first rest =>
        obtain ⟨c, hc, -, hchooser⟩ := exists_unbroken_chooser hfs
        rw [hchooser]
        exact wraps_fragmentSteps (Chooser.wraps_steps hc) rfl

/-! ### Files -/

/-- Neither a table nor the function that opens a library defines anything. -/
lemma yields_table {steps : List Step} {name : String} (h : Heads steps [tableLine name]) :
    Yields steps [] :=
  Yields.of_heads_nil h (List.forall_mem_singleton.mpr (definedName?_tableLine name))

lemma yields_opening {steps : List Step} {name : String} (h : Heads steps [openingLine name]) :
    Yields steps [] :=
  Yields.of_heads_nil h (List.forall_mem_singleton.mpr (definedName?_openingLine name))

lemma ClassFile.yields_constantSteps {file : ClassFile} (h : file.Unbroken) :
    Yields file.constantSteps [] := by
  refine Yields.of_heads_nil (heads_constantSteps h) fun header hheader => ?_
  split at hheader
  · cases hheader
  · rw [List.mem_singleton.mp hheader]
    exact definedName?_constantLine _

/-- A class file wraps its constructors, then its members. -/
lemma ClassFile.wraps_steps {file : ClassFile} (h : file.Unbroken)
    {constructors members : List String}
    (hconstructors : Wraps (file.constructors.flatMap fragmentSteps) constructors)
    (hmembers : Wraps (file.members.flatMap fragmentSteps) members) :
    Wraps file.steps (constructors ++ members) := by
  have hhead := Yields.of_heads_nil (heads_headSteps h) (List.forall_mem_nil _)
  have hfunctions := ((Wraps.nil_append hhead hconstructors).append (wraps_hookSteps h)).append
    hmembers
  rw [List.append_nil] at hfunctions
  exact (((hfunctions.append_nil (yields_table (heads_methods h))).append_nil
    (yields_constantSteps h)).append_nil (yields_table (heads_creators h))).append_nil
      (yields_opening (heads_openSteps h))

lemma NamespaceFile.wraps_steps {file : NamespaceFile} (h : file.Unbroken) {names : List String}
    (hfunctions : Wraps (file.functions.flatMap fragmentSteps) names) : Wraps file.steps names :=
  ((Wraps.nil_append (Yields.of_heads_nil (heads_head h) (List.forall_mem_nil _))
    hfunctions).append_nil (yields_table (heads_rows h))).append_nil
      (yields_opening (heads_openSteps h))

/-- What is kept of a class: its constructors, then its members. -/
lemma keptFunctions_functions (o : Options) (c : ClassDecl) :
    keptFunctions o c.functions
      = keptConstructors o c ++ Member.leavesAll (keptSlots o c.members) := by
  rw [keptFunctions, ClassDecl.functions, List.filter_append, leavesAll_keptSlots]
  rfl

/-- The file of a class wraps the functions of the class that are kept. -/
lemma wrapperNames_classFile {o : Options} {c : ClassDecl} (h : UnbrokenClass o c) :
    wrapperNames (keptClassFile o c).content
      = (keptFunctions o c.functions).map (identifier · none) := by
  have hconstructors := writable_of_mem_keptConstructors h
  have hmembers := writable_of_mem_keptSlots fun f hf =>
    h.functions f (List.mem_append_right c.constructors hf)
  rw [keptFunctions_functions, List.map_append]
  exact (ClassFile.wraps_steps (unbroken_ofKept h hconstructors hmembers)
    (piecewise_wraps.constructorParts hconstructors)
    (piecewise_wraps.flatMap_slotParts hmembers)).wrapperNames_render

/-- The file of a namespace wraps the free functions that are kept. -/
lemma wrapperNames_namespaceFile {o : Options} {n : NamespaceDecl} (h : UnbrokenFunctions o n) :
    wrapperNames (NamespaceFile.ofKept o n).text
      = (keptFunctions o n.freeFunctions).map (identifier · none) := by
  have hfunctions := writable_of_mem_keptSlots h.functions
  have hfile : (NamespaceFile.ofKept o n).Unbroken :=
    ⟨h.name, h.headers, unbroken_of_mem_slotRows hfunctions⟩
  have hkept : keptFunctions o n.freeFunctions = Member.leavesAll (keptSlots o n.functions) :=
    (leavesAll_keptSlots o n.functions).symm
  rw [hkept]
  exact (NamespaceFile.wraps_steps hfile
    (piecewise_wraps.flatMap_slotParts hfunctions)).wrapperNames_render

end LuaBinder.Lua
