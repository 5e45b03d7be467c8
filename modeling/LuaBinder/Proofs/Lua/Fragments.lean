import LuaBinder.Proofs.Code.Output
import LuaBinder.Proofs.Lua.Rendering
import LuaBinder.Proofs.Lua.Targets

/-!
The parts of a file define what the rows for them name.

* `Defines`: a text has the line that opens the C function of a name.
* `Closed`: the parts define given names and whatever their choosers return to, and no name in a
  chooser breaks a line.
* `closed_overloadParts`: wrappers and their chooser are closed under the name of the chooser.
* `closed_slotParts`, `closed_constructorParts`: the parts of slots and of the constructors define
  what their rows name.
-/

namespace LuaBinder.Lua

open Code Text

/-! ### Definitions in a text -/

/-- The text has the line that opens the C function of a name. -/
def Defines (text name : String) : Prop := definitionLine name ∈ lines text

/-- The definition of a one-line name is a row. -/
lemma isRow_definitionLine {name : String} (h : OneLine name) : IsRow (definitionLine name) := by
  have hfront : OneLine "static int " := by decide
  have hback : OneLine "(lua_State *L) \x7b" := by decide
  refine ⟨(hfront.append h).append hback, ?_⟩
  have hlast : (definitionLine name).toList.getLast? = some '\x7b' := by
    rw [definitionLine, String.toList_append, List.getLast?_append]
    rfl
  rw [hlast]
  decide

lemma oneLine_of_defines {text name : String} (h : Defines text name) : OneLine name := by
  intro hmem
  refine oneLine_of_mem_lines h ?_
  simp [definitionLine, hmem]

/-- A block under a comment defines its function. -/
lemma defines_render {name : String} (h : OneLine name) (rows : List String) (body : List Step) :
    Defines (render [.comment rows, .block (definitionLine name) "\x7d" body]) name := by
  rw [Defines, ← List.singleton_append]
  exact mem_lines_render (isRow_definitionLine h) rfl rfl

/-! ### Functions that can be bound -/

/-- No name that the code for a function shows breaks a line. -/
structure OneLined (f : FunctionDecl) : Prop where
  scope : OneLine f.scope
  name : OneLine f.name
  qualifiedName : OneLine f.qualifiedName
  library : OneLine f.library

/-- The function has a signature, and its names do not break a line. -/
structure Bindable (f : FunctionDecl) : Prop extends OneLined f where
  convertible : isConvertible f = true

lemma oneLine_identifier {f : FunctionDecl} (h : Bindable f) (index : Option Nat) :
    OneLine (identifier f index) := by
  have hstem : OneLine (f.scope ++ "_" ++ f.name) :=
    (h.scope.append (by decide : OneLine "_")).append h.name
  rw [identifier]
  split
  · exact hstem.append (oneLine_toString_nat _)
  · exact hstem

/-- The names of the functions that the branches of a chooser return to. -/
def Fragment.targets : Fragment → List String
  | .function _ => []
  | .chooser none => []
  | .chooser (some c) => c.alternatives.map Alternative.target

/-- Some part defines the function of a name. -/
def Defined (parts : List Fragment) (name : String) : Prop := ∃ part ∈ parts, Defines part.text name

/-- The parts define the given names, and whatever their choosers return to. -/
structure Closed (parts : List Fragment) (names : List String) : Prop where
  names : ∀ name ∈ names, Defined parts name
  targets : ∀ name ∈ parts.flatMap Fragment.targets, Defined parts name
  choosers : ∀ c, .chooser (some c) ∈ parts → c.SingleLined

lemma Defined.append_left {parts more : List Fragment} {name : String} (h : Defined parts name) :
    Defined (parts ++ more) name := by
  obtain ⟨part, hpart, hdef⟩ := h
  exact ⟨part, List.mem_append_left _ hpart, hdef⟩

lemma Defined.append_right {parts more : List Fragment} {name : String} (h : Defined more name) :
    Defined (parts ++ more) name := by
  obtain ⟨part, hpart, hdef⟩ := h
  exact ⟨part, List.mem_append_right _ hpart, hdef⟩

/-- Closed parts stay closed beside each other. -/
lemma Closed.append {parts more : List Fragment} {names others : List String}
    (h : Closed parts names) (h' : Closed more others) :
    Closed (parts ++ more) (names ++ others) := by
  refine ⟨?_, ?_, fun c hc => (List.mem_append.mp hc).elim (h.choosers c) (h'.choosers c)⟩
  · intro name hname
    rcases List.mem_append.mp hname with hname | hname
    · exact (h.names name hname).append_left
    · exact (h'.names name hname).append_right
  · intro name hname
    rw [List.flatMap_append] at hname
    rcases List.mem_append.mp hname with hname | hname
    · exact (h.targets name hname).append_left
    · exact (h'.targets name hname).append_right

lemma closed_nil : Closed [] [] :=
  ⟨fun _ h => absurd h List.not_mem_nil, fun _ h => absurd h List.not_mem_nil,
    fun _ h => absurd h List.not_mem_nil⟩

/-- A single function is closed under its name. -/
lemma closed_function {text name : String} (h : Defines text name) :
    Closed [.function text] [name] := by
  refine ⟨fun x hx => ?_, fun x hx => absurd hx List.not_mem_nil,
    fun c hc => absurd (List.mem_singleton.mp hc) (by simp)⟩
  rw [List.mem_singleton.mp hx]
  exact ⟨_, List.mem_cons_self, h⟩

/-! ### Parts and their rows -/

/-- The wrapper of a function defines its name. -/
lemma defines_wrapperText {f : FunctionDecl} (hf : Bindable f) :
    Defines (wrapperText f) (identifier f none) := by
  obtain ⟨s, hs⟩ := exists_signature hf.convertible
  rw [wrapperText, Wrapper.ofFunction, signatureOf_eq_ok_iff.mpr hs]
  exact defines_render (oneLine_identifier hf none) _ _

/-- The condition of a branch and its target break no line: neither does the base of a type. -/
lemma oneLine_ofOverload {f : FunctionDecl} {s : Signature} (hf : Bindable f) (h : s.Describes f) :
    Consists (· != '\n') (Alternative.ofOverload s f).text
      ∧ Consists (· != '\n') (Alternative.ofOverload s f).target := by
  have hbase : ∀ t : DeclaredType, OneLine t.base := fun t =>
    not_mem_intercalate (by decide) fun _ hword =>
      (unbroken_of_mem_words (List.mem_filter.mp hword).1).noFeed
  exact consists_ofOverload h admits_ne_newline (consists_ne_iff.mpr hf.scope)
    (consists_ne_iff.mpr hf.name) (consists_ne_iff.mpr hf.library)
    fun a _ => consists_ne_iff.mpr (hbase a.type)

/-- A chooser defines its name, which is that of the first overload, and returns to the wrappers. -/
lemma exists_chooserOf? {first : FunctionDecl} {rest : List FunctionDecl}
    (hfs : ∀ f ∈ first :: rest, Bindable f) :
    ∃ c, chooserOf? (first :: rest) = some c ∧ c.SingleLined
      ∧ Defines c.text (identifier first (some 0))
      ∧ ∀ a ∈ c.alternatives, ∃ f ∈ first :: rest, a.target = identifier f none := by
  obtain ⟨overloads, hoverloads⟩ := exists_signatures fun f hf => (hfs f hf).convertible
  obtain ⟨hsnd, hdescribes⟩ := describes_of_signatures hoverloads
  have hfirst := hfs first List.mem_cons_self
  set c : Chooser := {
    functionName := first.name
    name := identifier first (some 0)
    qualifiedName := first.qualifiedName
    alternatives := Chooser.alternativesOf overloads } with hc
  have halternative : ∀ a ∈ c.alternatives, ∃ o ∈ overloads, a = .ofOverload o.1 o.2 := by
    intro a ha
    obtain ⟨o, ho, rfl⟩ := List.mem_map.mp ((alternativesOf_perm overloads).mem_iff.mp ha)
    exact ⟨o, ho, rfl⟩
  have hmem : ∀ o ∈ overloads, o.2 ∈ first :: rest := by
    intro o ho
    rw [← hsnd]
    exact List.mem_map_of_mem ho
  refine ⟨c, by rw [chooserOf?, Chooser.ofOverloads, hoverloads]; rfl,
    ⟨hfirst.name, consists_ne_iff.mpr (oneLine_identifier hfirst _),
      consists_ne_iff.mpr hfirst.qualifiedName, ?_⟩,
    defines_render (oneLine_identifier hfirst _) _ c.bodySteps, ?_⟩
  · intro a ha
    obtain ⟨o, ho, rfl⟩ := halternative a ha
    exact oneLine_ofOverload (hfs o.2 (hmem o ho)) (hdescribes o ho)
  · intro a ha
    obtain ⟨o, ho, rfl⟩ := halternative a ha
    exact ⟨o.2, hmem o ho, rfl⟩

/-- Wrappers and their chooser are closed under the name of the chooser. -/
lemma closed_overloadParts {fs : List FunctionDecl} (hfs : ∀ f ∈ fs, Bindable f) :
    Closed (overloadParts fs) (fs.head?.toList.map (identifier · (some 0))) := by
  have htargets : (fs.map (Fragment.function <| wrapperText ·)).flatMap Fragment.targets = [] := by
    rw [List.flatMap_eq_nil_iff]
    intro part hpart
    obtain ⟨f, -, rfl⟩ := List.mem_map.mp hpart
    rfl
  rw [overloadParts]
  cases fs with
  | nil =>
      refine ⟨fun x hx => absurd hx List.not_mem_nil, fun x hx => absurd hx List.not_mem_nil,
        fun c hc => ?_⟩
      have hnone : chooserOf? [] = none := rfl
      rw [List.map_nil, List.nil_append, hnone, List.mem_singleton] at hc
      cases hc
  | cons first rest =>
      obtain ⟨c, hc, hlined, hdef, htarget⟩ := exists_chooserOf? hfs
      refine ⟨fun name hmem => ?_, fun name hmem => ?_, fun d hmem => ?_⟩
      · rw [List.head?_cons, Option.toList_some, List.map_singleton, List.mem_singleton] at hmem
        rw [hmem, hc]
        exact Defined.append_right ⟨_, List.mem_cons_self, hdef⟩
      · rw [List.flatMap_append, htargets, List.nil_append, List.flatMap_singleton, hc] at hmem
        obtain ⟨a, ha, rfl⟩ := List.mem_map.mp hmem
        obtain ⟨f, hf, heq⟩ := htarget a ha
        rw [heq]
        exact Defined.append_left
          ⟨_, List.mem_map_of_mem hf, defines_wrapperText (hfs f hf)⟩
      · rcases List.mem_append.mp hmem with hmem | hmem
        · obtain ⟨f, -, heq⟩ := List.mem_map.mp hmem
          cases heq
        · rw [hc, List.mem_singleton] at hmem
          cases hmem
          exact hlined

/-- The parts of a slot define what its row names. -/
lemma closed_slotParts {m : Member FunctionDecl} (hm : ∀ f ∈ m.leaves, Bindable f) :
    Closed (slotParts m) ((slotRow m).map Row.identifier) := by
  cases m with
  | leaf f => exact closed_function (defines_wrapperText (hm f List.mem_cons_self))
  | group members =>
      have hclosed := closed_overloadParts hm
      rw [Member.leaves] at hclosed
      rw [slotParts, slotRow, Member.first?_eq_head?_leaves, Member.leaves]
      cases hhead : (Member.leavesAll members).head? with
      | none =>
          rw [hhead] at hclosed
          exact hclosed
      | some f =>
          rw [hhead] at hclosed
          exact hclosed

/-- The parts of a member list define what its rows name. -/
lemma closed_flatMap_slotParts {ms : List (Member FunctionDecl)}
    (hms : ∀ f ∈ Member.leavesAll ms, Bindable f) :
    Closed (ms.flatMap slotParts) ((ms.flatMap slotRow).map Row.identifier) := by
  induction ms with
  | nil => exact closed_nil
  | cons m ms ih =>
      rw [Member.leavesAll, List.forall_mem_append] at hms
      rw [List.flatMap_cons, List.flatMap_cons, List.map_append]
      exact (closed_slotParts hms.1).append (ih hms.2)

/-- The parts of the constructors define what the rows of the class name: a constructor without
overload number bears the name of its chooser. -/
lemma closed_constructorParts (c : ClassDecl) {fs : List FunctionDecl}
    (hfs : ∀ f ∈ fs, Bindable f) :
    Closed (constructorParts fs) ((creatorRows c fs).map Row.identifier) := by
  cases fs with
  | nil => exact closed_nil
  | cons first rest =>
      -- all rows name the chooser of the constructors
      have hclosed : ∀ parts, Closed parts [identifier first (some 0)] →
          Closed parts ((creatorRows c (first :: rest)).map Row.identifier) := by
        intro parts h
        refine ⟨fun x hx => h.names x ?_, h.targets, h.choosers⟩
        obtain ⟨r, hr, rfl⟩ := List.mem_map.mp hx
        obtain ⟨name, -, rfl⟩ := List.mem_map.mp hr
        exact List.mem_cons_self
      have hchooser := closed_overloadParts hfs
      cases rest with
      | cons second rest => exact hclosed _ hchooser
      | nil =>
          rw [constructorParts]
          cases hoverload : first.overload with
          | some n => exact hclosed _ hchooser
          | none =>
              have hdef := defines_wrapperText (hfs first List.mem_cons_self)
              have hname : identifier first none = identifier first (some 0) := by
                rw [identifier, identifier, hoverload]
                rfl
              rw [hname] at hdef
              exact hclosed _ (closed_function hdef)

end LuaBinder.Lua
