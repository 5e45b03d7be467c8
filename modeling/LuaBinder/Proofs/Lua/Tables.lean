import LuaBinder.Lua.SourceFile
import LuaBinder.Proofs.Code.Rows
import LuaBinder.Proofs.Lua.Targets

/-!
The tables of functions and the choosers in the text of a binding source.

* `ClassFile.functionSteps`, `NamespaceFile.functionSteps`: the code in front of the tables.
* `HasTable`: the text of a file has a table of functions with the given rows.
* `hasTable_methods`, `hasTable_creators`, `hasTable_functions`: those of the files of a class and
  of a namespace.
* `HasChooser`: the text of a file has the lines of a chooser, and the lines inside of its branches
  return to its targets.
* `hasChooser_classFile`, `hasChooser_namespaceFile`: the choosers of the two kinds of files.
-/

namespace LuaBinder

open Code Text

/-! ### The code in front of the tables -/

namespace Lua

lemma flatAll_fragmentSteps (parts : List Fragment) :
    Builder.flatAll (parts.flatMap fragmentSteps) = true := by
  rw [Builder.flatAll_iff]
  intro s hs
  obtain ⟨part, -, hs⟩ := List.mem_flatMap.mp hs
  simp only [fragmentSteps, List.mem_cons, List.not_mem_nil, or_false] at hs
  rcases hs with rfl | rfl <;> rfl

lemma mem_flatMap_fragmentSteps {parts : List Fragment} {part : Fragment} (h : part ∈ parts) :
    .lines part.text ∈ parts.flatMap fragmentSteps :=
  List.mem_flatMap.mpr ⟨part, h, List.mem_cons_self⟩

namespace ClassFile

variable (file : ClassFile)

/-- The steps of a class file up to its tables. -/
def functionSteps : List Step :=
  file.headSteps ++ file.constructors.flatMap fragmentSteps ++ file.hookSteps
    ++ file.members.flatMap fragmentSteps

lemma flatAll_functionSteps : Builder.flatAll file.functionSteps = true := by
  have hhead : Builder.flatAll file.headSteps = true := by
    rw [headSteps]
    cases file.include? <;> cases file.library <;> rfl
  have hhooks : Builder.flatAll file.hookSteps = true := rfl
  have hconstructors := Builder.flatAll_append hhead (flatAll_fragmentSteps file.constructors)
  exact Builder.flatAll_append (Builder.flatAll_append hconstructors hhooks)
    (flatAll_fragmentSteps file.members)

/-- The tables follow the functions. -/
lemma text_eq : ∃ back, file.text = render (file.functionSteps ++ back) := by
  refine ⟨functionTable (file.name ++ "_member_methods") file.methods
    ++ file.constantSteps
    ++ functionTable (file.name ++ "_namespace_methods") file.creators
    ++ file.openSteps, ?_⟩
  rw [text, steps, functionSteps]
  simp only [List.append_assoc]

/-- Every part stands there. -/
lemma lines_mem_functionSteps {part : Fragment} (h : part ∈ file.constructors ++ file.members) :
    .lines part.text ∈ file.functionSteps := by
  rw [functionSteps]
  rcases List.mem_append.mp h with h | h
  · have hmem := mem_flatMap_fragmentSteps h
    simp only [List.mem_append]
    exact .inl (.inl (.inr hmem))
  · exact List.mem_append_right _ (mem_flatMap_fragmentSteps h)

end ClassFile

namespace NamespaceFile

variable (file : NamespaceFile)

/-- The steps of a namespace file up to its table. -/
def functionSteps : List Step :=
  [.lines (banner ("Bindings for namespace " ++ file.name)), includeLine supportHeaderPath]
    ++ file.includes.map includeLine
    ++ [.blank, .line ("using namespace " ++ file.name ++ ";"), .blank]
    ++ file.functions.flatMap fragmentSteps

lemma flatAll_functionSteps : Builder.flatAll file.functionSteps = true := by
  have hincludes : Builder.flatAll (file.includes.map includeLine) = true := by
    rw [Builder.flatAll_iff]
    intro s hs
    obtain ⟨path, -, rfl⟩ := List.mem_map.mp hs
    rfl
  have hbanner : Builder.flatAll [.lines (banner ("Bindings for namespace " ++ file.name)),
      includeLine supportHeaderPath] = true := rfl
  have husing : Builder.flatAll
      [.blank, .line ("using namespace " ++ file.name ++ ";"), .blank] = true := rfl
  exact Builder.flatAll_append
    (Builder.flatAll_append (Builder.flatAll_append hbanner hincludes) husing)
    (flatAll_fragmentSteps file.functions)

lemma text_eq : ∃ back, file.text = render (file.functionSteps ++ back) := by
  refine ⟨functionTable (file.name ++ "_functions") file.rows
    ++ [.block ("extern \"C\" int luaopen_" ++ openName file.name ++ "(lua_State *L) \x7b") "\x7d"
          [.line ("luaL_register(L, \"" ++ file.name ++ "\", " ++ file.name ++ "_functions);"),
           .line "return 1;"]], ?_⟩
  rw [text, steps, functionSteps]
  simp only [List.append_assoc]

/-- Every part stands there. -/
lemma lines_mem_functionSteps {part : Fragment} (h : part ∈ file.functions) :
    .lines part.text ∈ file.functionSteps := by
  rw [functionSteps]
  exact List.mem_append_right _ (mem_flatMap_fragmentSteps h)

end NamespaceFile

end Lua

open Lua

/-! ### Tables in a text -/

/-- The text has the table of functions of the given name and rows. -/
def HasTable (content name : String) (rows : List Row) : Prop :=
  ∃ front back, content = front ++ render (functionTable name rows) ++ back

lemma depth_tableSteps (header ending : String) (rows : List Row) :
    depthAfterAll? 0 (tableSteps header ending rows) = some 0 := by
  rw [tableSteps, tableRows]
  split <;> rfl

/-- Steps that contain a table write it, if the steps in front lead back to where they started. -/
lemma hasTable_render {front : List Step} (h : depthAfterAll? 0 front = some 0) (name : String)
    (rows : List Row) (back : List Step) :
    HasTable (render (front ++ functionTable name rows ++ back)) name rows := by
  have htable : depthAfterAll? 0 (front ++ functionTable name rows) = some 0 :=
    depthAfterAll?_append h (depth_tableSteps _ _ rows)
  exact ⟨render front, render back, by rw [render_append htable, render_append h]⟩

/-! ### Tables of a file -/

lemma hasTable_methods (file : ClassFile) :
    HasTable file.text (file.name ++ "_member_methods") file.methods := by
  have hfront := depthAfterAll?_of_flatAll file.flatAll_functionSteps 0
  have htext : file.text = render (file.functionSteps
      ++ functionTable (file.name ++ "_member_methods") file.methods
      ++ (file.constantSteps ++ functionTable (file.name ++ "_namespace_methods") file.creators
        ++ file.openSteps)) := by
    rw [ClassFile.text, ClassFile.steps, ClassFile.functionSteps]
    simp only [List.append_assoc]
  rw [htext]
  exact hasTable_render hfront _ _ _

lemma hasTable_creators (file : ClassFile) :
    HasTable file.text (file.name ++ "_namespace_methods") file.creators := by
  have hconstants : depthAfterAll? 0 file.constantSteps = some 0 := by
    rw [ClassFile.constantSteps]
    split
    · rfl
    · exact depth_tableSteps _ _ _
  have hfront : depthAfterAll? 0 (file.functionSteps
      ++ functionTable (file.name ++ "_member_methods") file.methods ++ file.constantSteps)
      = some 0 :=
    depthAfterAll?_append (depthAfterAll?_append
      (depthAfterAll?_of_flatAll file.flatAll_functionSteps 0) (depth_tableSteps _ _ _)) hconstants
  have htext : file.text = render (file.functionSteps
      ++ functionTable (file.name ++ "_member_methods") file.methods ++ file.constantSteps
      ++ functionTable (file.name ++ "_namespace_methods") file.creators ++ file.openSteps) := by
    rw [ClassFile.text, ClassFile.steps, ClassFile.functionSteps]
  rw [htext]
  exact hasTable_render hfront _ _ _

lemma hasTable_functions (file : NamespaceFile) :
    HasTable file.text (file.name ++ "_functions") file.rows := by
  rw [NamespaceFile.text, NamespaceFile.steps]
  exact hasTable_render (depthAfterAll?_of_flatAll file.flatAll_functionSteps 0) _ _ _

/-! ### Choosers of a file -/

/-- The text has the lines of the chooser, and the lines inside of its branches return to its
targets. -/
structure HasChooser (content : String) (c : Chooser) : Prop where
  shown : lines c.text <:+: lines content
  branches : (lines c.text).filterMap branchTarget? = c.alternatives.map Alternative.target

/-- A chooser whose names break no line stands in a file line by line. -/
lemma hasChooser_render {front back : List Step} {c : Chooser}
    (hfront : Builder.flatAll front = true) (hmem : .lines c.text ∈ front) (hc : c.SingleLined) :
    HasChooser (render (front ++ back)) c := by
  refine ⟨lines_infix_lines_render hfront hmem fun line hline => ?_, hc.filterMap_branchTarget?⟩
  rw [hc.lines_text] at hline
  obtain ⟨r, hr, rfl⟩ := List.mem_map.mp hline
  exact hc.isRow_of_mem_rows r hr

lemma hasChooser_classFile {file : ClassFile} {c : Chooser}
    (h : .chooser (some c) ∈ file.constructors ++ file.members) (hc : c.SingleLined) :
    HasChooser file.text c := by
  obtain ⟨back, htext⟩ := file.text_eq
  rw [htext]
  exact hasChooser_render file.flatAll_functionSteps (file.lines_mem_functionSteps h) hc

lemma hasChooser_namespaceFile {file : NamespaceFile} {c : Chooser}
    (h : .chooser (some c) ∈ file.functions) (hc : c.SingleLined) : HasChooser file.text c := by
  obtain ⟨back, htext⟩ := file.text_eq
  rw [htext]
  exact hasChooser_render file.flatAll_functionSteps (file.lines_mem_functionSteps h) hc

end LuaBinder
