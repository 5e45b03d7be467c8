import LuaBinder.Proofs.Code.Headers
import LuaBinder.Proofs.Lua.Layout
import LuaBinder.Proofs.Lua.Rendering

/-!
The C functions that steps of generated code define, in order.

* `definedNames`: the names of the functions that the lines of a text open.
* `Yields`: steps define given functions, in order; `Yields.of_heads` reads them off the headers.
* `heads_wrapper`, `heads_chooser`: a wrapper and a chooser are opened by one definition.
* `heads_constructorParts`, `heads_slotParts`: the parts of a file are opened by one definition for
  every overload, and one for their chooser.
-/

namespace LuaBinder.Lua

open Code Text

/-! ### Reading definitions -/

/-- The name in a line that opens a C function. -/
def definedName? (line : String) : Option String :=
  between? "static int " "(lua_State *L) \x7b" line

/-- The names of the C functions that the lines of a text open. -/
def definedNames (text : String) : List String := (lines text).filterMap definedName?

lemma definedName?_definitionLine (name : String) :
    definedName? (definitionLine name) = some name :=
  between?_eq_some_iff.mpr rfl

/-- What a line that opens a C function starts with. -/
def definitionStart : List Char := ['s', 't', 'a', 't', 'i', 'c', ' ', 'i', 'n', 't', ' ']

/-- A text that neither starts like a definition nor is the start of one. -/
def startsOtherwise (cs : List Char) : Bool :=
  ! cs.isPrefixOf definitionStart && ! definitionStart.isPrefixOf cs

/-- A line that starts otherwise opens no function. -/
lemma definedName?_append {cs : List Char} (h : startsOtherwise cs = true) (rest : String) :
    definedName? (String.ofList cs ++ rest) = none := by
  rw [startsOtherwise, Bool.and_eq_true, Bool.not_eq_true', Bool.not_eq_true'] at h
  exact between?_eq_none_of_apart h.1 h.2 _ rest

/-- Only a line that opens something opens a C function. -/
lemma definedName?_eq_none_of_headerOf? (line : String) (h : headerOf? line = none) :
    definedName? line = none := between?_eq_none_of_quiet rfl h

lemma headerOf?_definitionLine (name : String) :
    headerOf? (definitionLine name) = some (definitionLine name) := by
  rw [definitionLine, String.append_assoc]
  exact headerOf?_header rfl _

/-- The definitions of some names define these names. -/
lemma filterMap_definedName?_map (names : List String) :
    (names.map definitionLine).filterMap definedName? = names := by
  rw [List.filterMap_map]
  exact (List.filterMap_congr fun name _ => definedName?_definitionLine name).trans
    List.filterMap_some

/-! ### Steps -/

/-- The name in a row that opens a C function. -/
def rowName? (r : CodeRow) : Option String := definedName? (r.line .spaces)

/-- An indented row opens no function, and neither does an empty one. -/
lemma rowName?_of_inside {r : CodeRow} (h : r.Inside 1) : rowName? r = none :=
  definedName?_eq_none_of_headerOf? _ (rowHeader?_of_inside h)

/-- The steps define the functions of the given names, in order. -/
structure Yields (steps : List Step) (names : List String) : Prop where
  unbroken : UnbrokenAll steps
  depth : depthAfterAll? 0 steps = some 0
  names : (rowsAll 0 steps).filterMap rowName? = names

namespace Yields

variable {steps more : List Step} {names others headers : List String}

/-- The functions that steps define are those of their headers. -/
lemma of_heads (h : Heads steps headers) : Yields steps (headers.filterMap definedName?) :=
  ⟨h.unbroken, h.depth, h.filterMap_rowsAll definedName?_eq_none_of_headerOf?⟩

lemma level (h : Yields steps names) : levelAfterAll 0 steps = 0 :=
  (inside_of_mem_rowsAll 0 h.depth).1

lemma append (h : Yields steps names) (h' : Yields more others) :
    Yields (steps ++ more) (names ++ others) := by
  refine ⟨unbrokenAll_append.mpr ⟨h.unbroken, h'.unbroken⟩, depthAfterAll?_append h.depth h'.depth,
    ?_⟩
  rw [rowsAll_append, h.level, List.filterMap_append, h.names, h'.names]

lemma nil : Yields [] [] := of_heads Heads.nil

lemma blank : Yields [.blank] [] := of_heads Heads.blank

/-- A comment defines nothing. -/
lemma comment {rows : List String} (hrows : ∀ row ∈ rows, Unbroken row) :
    Yields [.comment rows] [] := of_heads (Heads.comment hrows)

/-- A longer text defines what its lines open. -/
lemma lines {text : String} (htext : ∀ row ∈ Text.lines text, Unbroken row) :
    Yields [.lines text] (definedNames text) := by
  have hall := of_heads (Heads.lines htext)
  rw [List.filterMap_filterMap] at hall
  rwa [definedNames, ← List.filterMap_congr fun line _ =>
    Heads.bind_headerOf? definedName?_eq_none_of_headerOf? line]

/-- The rendered text defines what the steps define. -/
lemma definedNames_render (h : Yields steps names) : definedNames (render steps) = names := by
  rw [definedNames, lines_render h.unbroken, List.filterMap_map]
  exact h.names

end Yields

/-! ### Wrappers and choosers -/

/-- The function has a wrapper, and no line of it is broken. -/
structure Writable (f : FunctionDecl) : Prop where
  convertible : isConvertible f = true
  unbroken : f.Unbroken

/-- The block of a C function is opened by its definition. -/
lemma heads_function {name : String} {body : List Step}
    (h : (Step.block (definitionLine name) "\x7d" body).Unbroken)
    (hdepth : depthAfterAll? 0 body = some 0) :
    Heads [.block (definitionLine name) "\x7d" body] [definitionLine name] := by
  obtain ⟨hheader, -, hbody⟩ := h
  have hblock := Heads.block hheader hbody hdepth
  rwa [headerOf?_definitionLine] at hblock

lemma heads_definition {rows : List String} {name : String} {body : List Step}
    (h : UnbrokenAll [.comment rows, .block (definitionLine name) "\x7d" body])
    (hdepth : depthAfterAll? 0 body = some 0) :
    Heads [.comment rows, .block (definitionLine name) "\x7d" body] [definitionLine name] :=
  (Heads.comment h.1).append (heads_function h.2.1 hdepth)

lemma Wrapper.heads_steps {w : Wrapper} (hw : w.Unbroken) :
    Heads w.steps [definitionLine w.name] :=
  heads_definition (Wrapper.unbroken_steps hw) w.depth_bodySteps

lemma Chooser.heads_steps {c : Chooser} (hc : c.Unbroken) :
    Heads c.steps [definitionLine c.name] :=
  heads_definition (Chooser.unbroken_steps hc) c.depth_bodySteps

/-- The block of a C function defines its name. -/
lemma yields_function {name : String} {body : List Step}
    (h : (Step.block (definitionLine name) "\x7d" body).Unbroken)
    (hdepth : depthAfterAll? 0 body = some 0) :
    Yields [.block (definitionLine name) "\x7d" body] [name] := by
  have hyields := Yields.of_heads (heads_function h hdepth)
  rwa [List.filterMap_cons_some (definedName?_definitionLine name), List.filterMap_nil] at hyields

/-- A part of a file has the headers of its own steps. -/
lemma heads_fragmentSteps {part : Fragment} {steps : List Step} {headers : List String}
    (h : Heads steps headers) (htext : part.text = render steps) :
    Heads (fragmentSteps part) headers := by
  have hlines := Heads.lines (unbroken_of_mem_lines_render h.unbroken)
  rw [h.filterMap_headerOf?_render, ← htext] at hlines
  exact hlines.append_nil Heads.blank

/-- It defines what its own steps define. -/
lemma yields_fragmentSteps {part : Fragment} {steps : List Step} {names : List String}
    (h : Yields steps names) (htext : part.text = render steps) :
    Yields (fragmentSteps part) names := by
  have hlines := Yields.lines (unbroken_of_mem_lines_render h.unbroken)
  rw [h.definedNames_render, ← htext] at hlines
  have hall := hlines.append Yields.blank
  rw [List.append_nil] at hall
  exact hall

/-- A function that can be written has a wrapper without broken lines. -/
lemma exists_unbroken_wrapper {f : FunctionDecl} (hf : Writable f) :
    ∃ w : Wrapper, w.Unbroken ∧ w.name = identifier f none ∧ wrapperText f = w.text := by
  obtain ⟨s, hs⟩ := exists_signature hf.convertible
  refine ⟨Wrapper.ofSignature f s,
    Wrapper.unbroken_ofSignature (Signature.describes_of_ofFunction hs) hf.unbroken, rfl, ?_⟩
  rw [wrapperText, Wrapper.ofFunction, signatureOf_eq_ok_iff.mpr hs]
  rfl

/-- The wrapper of a function is opened by the definition of its identifier. -/
lemma heads_wrapper {f : FunctionDecl} (hf : Writable f) :
    Heads (fragmentSteps (.function (wrapperText f))) [definitionLine (identifier f none)] := by
  obtain ⟨w, hw, hname, htext⟩ := exists_unbroken_wrapper hf
  rw [← hname]
  exact heads_fragmentSteps (Wrapper.heads_steps hw) htext

lemma unbroken_alternativesOf {fs : List FunctionDecl}
    {overloads : List (Signature × FunctionDecl)} (h : Chooser.signatures fs = .ok overloads)
    (hfs : ∀ f ∈ fs, f.Unbroken) :
    ∀ a ∈ Chooser.alternativesOf overloads, Unbroken a.text ∧ Unbroken a.target := by
  obtain ⟨hsnd, hdescribes⟩ := describes_of_signatures h
  intro a ha
  rw [(alternativesOf_perm overloads).mem_iff] at ha
  obtain ⟨o, ho, rfl⟩ := List.mem_map.mp ha
  have hmem : o.2 ∈ fs := by
    rw [← hsnd]
    exact List.mem_map_of_mem ho
  exact unbroken_ofOverload (hdescribes o ho) (hfs o.2 hmem)

/-- Overloads that can be written have a chooser without broken lines. -/
lemma exists_unbroken_chooser {first : FunctionDecl} {rest : List FunctionDecl}
    (hfs : ∀ f ∈ first :: rest, Writable f) : ∃ c : Chooser, c.Unbroken
      ∧ c.name = identifier first (some 0) ∧ chooserOf? (first :: rest) = some c := by
  obtain ⟨overloads, hoverloads⟩ := exists_signatures fun f hf => (hfs f hf).convertible
  have hfirst := (hfs first List.mem_cons_self).unbroken
  refine ⟨⟨first.name, identifier first (some 0), first.qualifiedName,
    Chooser.alternativesOf overloads⟩, ?_, rfl, ?_⟩
  · exact ⟨hfirst.name, unbroken_identifier hfirst.scope hfirst.name (some 0), hfirst.qualifiedName,
      unbroken_alternativesOf hoverloads fun f hf => (hfs f hf).unbroken⟩
  · rw [chooserOf?, Chooser.ofOverloads, hoverloads]
    rfl

/-- The chooser of overloads is opened by the definition of the identifier of the first one without
its number. -/
lemma heads_chooser {fs : List FunctionDecl} (hfs : ∀ f ∈ fs, Writable f) :
    Heads (fragmentSteps (.chooser (chooserOf? fs)))
      ((fs.head?.toList.map (identifier · (some 0))).map definitionLine) := by
  cases fs with
  | nil => exact heads_fragmentSteps Heads.nil rfl
  | cons first rest =>
      obtain ⟨c, hc, hname, hchooser⟩ := exists_unbroken_chooser hfs
      rw [hchooser, List.head?_cons, Option.toList_some, List.map_singleton, List.map_singleton,
        ← hname]
      exact heads_fragmentSteps (Chooser.heads_steps hc) rfl

/-! ### Parts of a file -/

/-- The functions that overloads and their chooser define. -/
def overloadNames (fs : List FunctionDecl) : List String :=
  fs.map (identifier · none) ++ fs.head?.toList.map (identifier · (some 0))

/-- The functions that a slot defines. -/
def slotDefinitions : Member FunctionDecl → List String
  | .leaf f => [identifier f none]
  | .group members => overloadNames (Member.leavesAll members)

/-- The functions that the constructors define. -/
def constructorDefinitions : List FunctionDecl → List String
  | [] => []
  | [single] => if single.overload.isNone then [identifier single none] else overloadNames [single]
  | overloads => overloadNames overloads

lemma heads_overloadParts {fs : List FunctionDecl} (hfs : ∀ f ∈ fs, Writable f) :
    Heads ((overloadParts fs).flatMap fragmentSteps) ((overloadNames fs).map definitionLine) := by
  have hwrappers : Heads ((fs.map (Fragment.function <| wrapperText ·)).flatMap fragmentSteps)
      ((fs.map (identifier · none)).map definitionLine) := by
    rw [List.flatMap_map, List.map_map, List.map_eq_flatMap]
    exact Heads.flatMap fun f hf => heads_wrapper (hfs f hf)
  rw [overloadParts, List.flatMap_append, List.flatMap_singleton, overloadNames, List.map_append]
  exact hwrappers.append (heads_chooser hfs)

/-- The parts of a slot. -/
lemma heads_slotParts {m : Member FunctionDecl} (hm : ∀ f ∈ m.leaves, Writable f) :
    Heads ((slotParts m).flatMap fragmentSteps) ((slotDefinitions m).map definitionLine) := by
  cases m with
  | leaf f =>
      rw [slotParts, List.flatMap_singleton]
      exact heads_wrapper (hm f List.mem_cons_self)
  | group members => exact heads_overloadParts hm

lemma heads_flatMap_slotParts {ms : List (Member FunctionDecl)}
    (hms : ∀ f ∈ Member.leavesAll ms, Writable f) :
    Heads ((ms.flatMap slotParts).flatMap fragmentSteps)
      ((ms.flatMap slotDefinitions).map definitionLine) := by
  rw [List.flatMap_assoc, List.map_flatMap]
  exact Heads.flatMap fun m hm => heads_slotParts fun f hf =>
    hms f (Member.mem_leavesAll.mpr ⟨m, hm, hf⟩)

/-- The parts of the constructors. -/
lemma heads_constructorParts {fs : List FunctionDecl} (hfs : ∀ f ∈ fs, Writable f) :
    Heads ((constructorParts fs).flatMap fragmentSteps)
      ((constructorDefinitions fs).map definitionLine) := by
  match fs with
  | [] => exact Heads.nil
  | [single] =>
      rw [constructorParts, constructorDefinitions]
      split
      · rw [List.flatMap_singleton]
        exact heads_wrapper (hfs single List.mem_cons_self)
      · exact heads_overloadParts hfs
  | first :: second :: rest => exact heads_overloadParts hfs

end LuaBinder.Lua
