import LuaBinder.Lua.Library
import LuaBinder.Proofs.Decl.Members
import LuaBinder.Proofs.Lua.Selection

/-!
What the binding sources are made of.

Rendering can fail at every function, but the functions that are left out are exactly those at which
it would. So a file is a total function of the declarations that are kept.

* `exists_render_iff`, `exists_chooserText_iff`: the wrapper of a function and the chooser of
  overloads exist exactly where all functions are convertible.
* `wrapperText`, `chooserOf?`: the wrapper and the chooser without the error.
* `slotParts`, `slotRow`, `constructorParts`: the parts and the row of a slot, and the parts of the
  constructors.
* `Piecewise`: what relates functions to parts wrapper by wrapper relates the functions of slots and
  constructors to their parts.
* `ClassFile.ofKept`, `NamespaceFile.ofKept`: the binding sources, and `ofClass_eq`,
  `ofNamespace_eq`: they are made without an error.
-/

namespace LuaBinder.Lua

open Code

/-! ### Functions -/

lemma isConvertible_iff {f : FunctionDecl} :
    isConvertible f = true ↔ ∃ s, Signature.ofFunction f = .ok s := by
  refine ⟨exists_signature, fun ⟨s, hs⟩ => ?_⟩
  rw [isConvertible, hs]

/-- A function has a wrapper exactly when it is convertible. -/
lemma exists_wrapper_iff {f : FunctionDecl} :
    (∃ w, Wrapper.ofFunction f = .ok w) ↔ isConvertible f = true := by
  rw [isConvertible_iff]
  constructor
  · rintro ⟨w, hw⟩
    obtain ⟨s, hs, -⟩ := map_eq_ok_iff.mp hw
    exact ⟨s, signatureOf_eq_ok_iff.mp hs⟩
  · rintro ⟨s, hs⟩
    exact ⟨Wrapper.ofSignature f s, map_eq_ok_iff.mpr ⟨s, signatureOf_eq_ok_iff.mpr hs, rfl⟩⟩

lemma exists_render_iff {f : FunctionDecl} :
    (∃ text, wrappers.render f = .ok text) ↔ isConvertible f = true := by
  rw [← exists_wrapper_iff]
  constructor
  · rintro ⟨text, htext⟩
    obtain ⟨w, hw, -⟩ := map_eq_ok_iff.mp htext
    exact ⟨w, hw⟩
  · rintro ⟨w, hw⟩
    exact ⟨w.text, map_eq_ok_iff.mpr ⟨w, hw, rfl⟩⟩

/-- Overloads have signatures exactly when all of them are convertible. -/
lemma exists_signatures_iff {fs : List FunctionDecl} :
    (∃ overloads, Chooser.signatures fs = .ok overloads) ↔ ∀ f ∈ fs, isConvertible f = true := by
  refine ⟨fun ⟨overloads, h⟩ f hf => ?_, exists_signatures⟩
  obtain ⟨o, -, hs, -⟩ := exists_right_of_mem (signatures_eq_ok_iff.mp h) hf
  exact isConvertible_iff.mpr ⟨o.1, signatureOf_eq_ok_iff.mp hs⟩

/-- So do they have a chooser. -/
lemma exists_ofOverloads_iff {fs : List FunctionDecl} :
    (∃ c?, Chooser.ofOverloads fs = .ok c?) ↔ ∀ f ∈ fs, isConvertible f = true := by
  cases fs with
  | nil => exact ⟨fun _ f hf => absurd hf List.not_mem_nil, fun _ => ⟨none, rfl⟩⟩
  | cons first rest =>
      rw [← exists_signatures_iff]
      constructor
      · rintro ⟨c?, hc⟩
        obtain ⟨overloads, h, -⟩ := map_eq_ok_iff.mp hc
        exact ⟨overloads, h⟩
      · rintro ⟨overloads, h⟩
        exact ⟨_, map_eq_ok_iff.mpr ⟨overloads, h, rfl⟩⟩

lemma exists_chooserText_iff {fs : List FunctionDecl} :
    (∃ text, chooserText fs = .ok text) ↔ ∀ f ∈ fs, isConvertible f = true := by
  rw [← exists_ofOverloads_iff]
  constructor
  · rintro ⟨text, htext⟩
    obtain ⟨c?, hc, -⟩ := map_eq_ok_iff.mp htext
    exact ⟨c?, hc⟩
  · rintro ⟨c?, hc⟩
    exact ⟨_, map_eq_ok_iff.mpr ⟨c?, hc, rfl⟩⟩

/-! ### Parts and rows -/

/-- The text of the wrapper of a function, empty for a function without one. -/
def wrapperText (f : FunctionDecl) : String := (Wrapper.ofFunction f).toOption.elim "" Wrapper.text

/-- The chooser of overloads, absent when there is nothing to choose from. -/
def chooserOf? (fs : List FunctionDecl) : Option Chooser := (Chooser.ofOverloads fs).toOption.join

/-- The wrappers of overloads and their chooser. -/
def overloadParts (fs : List FunctionDecl) : List Fragment :=
  fs.map (.function <| wrapperText ·) ++ [.chooser (chooserOf? fs)]

/-- The parts of a slot. -/
def slotParts : Member FunctionDecl → List Fragment
  | .leaf f => [.function (wrapperText f)]
  | .group members => overloadParts (Member.leavesAll members)

/-- The parts of the constructors that are kept. -/
def constructorParts : List FunctionDecl → List Fragment
  | [] => []
  | [single] =>
    if single.overload.isNone then [.function (wrapperText single)] else overloadParts [single]
  | overloads => overloadParts overloads

/-- The row of a slot. -/
def slotRow (m : Member FunctionDecl) : List Row :=
  m.first?.toList.map fun f =>
    { name := f.name, identifier := identifier f (if m.isGroup then some 0 else none) }

/-- The rows that make a class and its aliases callable. -/
def creatorRows (c : ClassDecl) : List FunctionDecl → List Row
  | [] => []
  | first :: _ =>
    (c.name :: c.aliases).map fun name => { name, identifier := identifier first (some 0) }

/-- A relation between functions and parts of a file that goes from wrapper to wrapper and passes
over choosers, for functions with some property. -/
structure Piecewise (P : FunctionDecl → Prop) (R : List FunctionDecl → List Fragment → Prop) :
    Prop where
  nil : R [] []
  append : ∀ {fs gs parts more}, R fs parts → R gs more → R (fs ++ gs) (parts ++ more)
  wrapper : ∀ {f}, P f → R [f] [.function (wrapperText f)]
  chooser : ∀ {fs}, (∀ f ∈ fs, P f) → R [] [.chooser (chooserOf? fs)]

namespace Piecewise

variable {P : FunctionDecl → Prop} {R : List FunctionDecl → List Fragment → Prop}
  (h : Piecewise P R)

include h

lemma overloadParts {fs : List FunctionDecl} (hfs : ∀ f ∈ fs, P f) : R fs (overloadParts fs) := by
  have hwrappers : ∀ gs : List FunctionDecl, (∀ f ∈ gs, P f) →
      R gs (gs.map (.function <| wrapperText ·)) := by
    intro gs hgs
    induction gs with
    | nil => exact h.nil
    | cons f gs ih =>
        obtain ⟨hf, hrest⟩ := List.forall_mem_cons.mp hgs
        exact h.append (h.wrapper hf) (ih hrest)
  have hall := h.append (hwrappers fs hfs) (h.chooser hfs)
  rwa [List.append_nil] at hall

lemma slotParts {m : Member FunctionDecl} (hm : ∀ f ∈ m.leaves, P f) :
    R m.leaves (slotParts m) := by
  cases m with
  | leaf f => exact h.wrapper (hm f List.mem_cons_self)
  | group members => exact h.overloadParts hm

/-- The parts of a member list belong to the functions below it. -/
lemma flatMap_slotParts {ms : List (Member FunctionDecl)}
    (hms : ∀ f ∈ Member.leavesAll ms, P f) :
    R (Member.leavesAll ms) (ms.flatMap Lua.slotParts) := by
  induction ms with
  | nil => exact h.nil
  | cons m ms ih =>
      obtain ⟨hm, hrest⟩ := List.forall_mem_append.mp hms
      exact h.append (h.slotParts hm) (ih hrest)

lemma constructorParts {fs : List FunctionDecl} (hfs : ∀ f ∈ fs, P f) :
    R fs (constructorParts fs) := by
  match fs with
  | [] => exact h.nil
  | [single] =>
      rw [Lua.constructorParts]
      split
      · exact h.wrapper (hfs single List.mem_cons_self)
      · exact h.overloadParts hfs
  | first :: second :: rest => exact h.overloadParts hfs

end Piecewise

section Resolved

variable {resolve : Resolver} (hresolve : ∀ f, resolve f = some wrappers)

include hresolve

lemma identifierWith_eq (f : FunctionDecl) (index : Option Nat) :
    identifierWith resolve f index = .ok (identifier f index) := by
  rw [identifierWith, requireRenderer, hresolve]
  rfl

lemma renderWith_eq {f : FunctionDecl} (hf : isConvertible f = true) :
    renderWith resolve f = .ok (wrapperText f) := by
  obtain ⟨w, hw⟩ := exists_wrapper_iff.mpr hf
  rw [renderWith, requireRenderer, hresolve, wrapperText, hw]
  show (Wrapper.ofFunction f).map Wrapper.text = _
  rw [hw]
  rfl

lemma overloadFragments_eq {fs : List FunctionDecl} (hfs : ∀ f ∈ fs, isConvertible f = true) :
    overloadFragments resolve fs = .ok (overloadParts fs) := by
  have htexts : fs.mapM (renderWith resolve) = .ok (fs.map wrapperText) := by
    rw [mapM_eq_ok_iff, List.forall₂_map_right_iff, List.forall₂_same]
    exact fun f hf => renderWith_eq hresolve (hfs f hf)
  obtain ⟨c?, hc⟩ := exists_ofOverloads_iff.mpr hfs
  rw [overloadFragments, htexts, hc, overloadParts, chooserOf?, hc]
  show Except.ok ((fs.map wrapperText).map Fragment.function ++ [.chooser c?]) = _
  rw [List.map_map]
  rfl

lemma slotFragments_eq {m : Member FunctionDecl} (hm : ∀ f ∈ m.leaves, isConvertible f = true) :
    slotFragments resolve m = .ok (slotParts m) := by
  cases m with
  | leaf f =>
      rw [slotFragments, renderWith_eq hresolve (hm f List.mem_cons_self)]
      rfl
  | group members => exact overloadFragments_eq hresolve hm

lemma slotRows_eq (m : Member FunctionDecl) : slotRows resolve m = .ok (slotRow m) := by
  rw [slotRows, slotRow]
  cases m.first? with
  | none => rfl
  | some f =>
      show (identifierWith resolve f _).map _ = _
      rw [identifierWith_eq hresolve]
      rfl

lemma fragments_eq {ms : List (Member FunctionDecl)}
    (hms : ∀ f ∈ Member.leavesAll ms, isConvertible f = true) :
    fragments resolve ms = .ok (ms.flatMap slotParts) := by
  have hslots : ms.mapM (slotFragments resolve) = .ok (ms.map slotParts) := by
    rw [mapM_eq_ok_iff, List.forall₂_map_right_iff, List.forall₂_same]
    exact fun m hm => slotFragments_eq hresolve fun f hf =>
      hms f (Member.mem_leavesAll.mpr ⟨m, hm, hf⟩)
  rw [fragments, hslots, List.flatMap_def]
  rfl

lemma memberRows_eq (ms : List (Member FunctionDecl)) :
    memberRows resolve ms = .ok (ms.flatMap slotRow) := by
  have hslots : ms.mapM (slotRows resolve) = .ok (ms.map slotRow) := by
    rw [mapM_eq_ok_iff, List.forall₂_map_right_iff, List.forall₂_same]
    exact fun m _ => slotRows_eq hresolve m
  rw [memberRows, hslots, List.flatMap_def]
  rfl

lemma constructorFragments_eq {o : Options} {c : ClassDecl}
    (hc : ∀ f ∈ keptConstructors o c, isConvertible f = true) :
    constructorFragments o resolve c = .ok (constructorParts (keptConstructors o c)) := by
  rw [constructorFragments]
  match hkept : keptConstructors o c with
  | [] => rfl
  | [single] =>
      rw [hkept] at hc
      simp only [constructorParts]
      split
      · rw [renderWith_eq hresolve (hc single List.mem_cons_self)]
        rfl
      · exact overloadFragments_eq hresolve hc
  | first :: second :: rest =>
      rw [hkept] at hc
      exact overloadFragments_eq hresolve hc

lemma constructorRows_eq (o : Options) (c : ClassDecl) :
    constructorRows o resolve c = .ok (creatorRows c (keptConstructors o c)) := by
  rw [constructorRows]
  cases keptConstructors o c with
  | nil => rfl
  | cons first rest =>
      show (identifierWith resolve first (some 0)).map _ = _
      rw [identifierWith_eq hresolve]
      rfl

end Resolved

/-! ### Kept functions -/

lemma isConvertible_of_kept {o : Options} {f : FunctionDecl} (h : isExcluded o f = false) :
    isConvertible f = true := by
  cases hc : isConvertible f with
  | true => rfl
  | false =>
      rw [isExcluded, exclusion?, hc] at h
      simp only [Bool.not_false, if_true] at h
      split_ifs at h <;> cases h

lemma isConvertible_of_exclusion?_eq_none {o : Options} {f : FunctionDecl}
    (h : exclusion? o f = none) : isConvertible f = true :=
  isConvertible_of_kept (o := o) (by rw [isExcluded, h, Option.isSome_none])

/-- The slots of a member list that are kept. -/
def keptSlots (o : Options) (members : List (Member FunctionDecl)) : List (Member FunctionDecl) :=
  (keptMembers o members).getD []

lemma leavesAll_keptSlots (o : Options) (members : List (Member FunctionDecl)) :
    Member.leavesAll (keptSlots o members)
      = (Member.leavesAll members).filter (! isExcluded o ·) := by
  rw [keptSlots, keptMembers, filterMembers_getD, Member.leavesAll_filterAll]

lemma isConvertible_of_mem_keptSlots (o : Options) (members : List (Member FunctionDecl)) :
    ∀ f ∈ Member.leavesAll (keptSlots o members), isConvertible f = true := by
  intro f hf
  rw [leavesAll_keptSlots, List.mem_filter] at hf
  exact isConvertible_of_kept (by simpa using hf.2)

lemma isConvertible_of_mem_keptConstructors (o : Options) (c : ClassDecl) :
    ∀ f ∈ keptConstructors o c, isConvertible f = true := by
  intro f hf
  exact isConvertible_of_kept (by simpa using (List.mem_filter.mp hf).2)

/-! ### Binding sources -/

/-- The binding source of a class: the parts and the rows of what is kept. -/
def ClassFile.ofKept (o : Options) (c : ClassDecl) : ClassFile where
  name := c.name
  library := c.library
  registryName := c.registryName
  include? := c.header?.map o.includePath
  constructors := constructorParts (keptConstructors o c)
  members := (keptSlots o c.members).flatMap slotParts
  destructorName := c.destructorName
  tostringName := c.tostringName
  methods := (keptSlots o c.members).flatMap slotRow
    ++ [⟨"__tostring", c.tostringName⟩, ⟨"__gc", c.destructorName⟩] ++ [deletedRow]
  constants := constantRows c
  creators := creatorRows c (keptConstructors o c)

/-- The binding source of a namespace. -/
def NamespaceFile.ofKept (o : Options) (n : NamespaceDecl) : NamespaceFile where
  name := n.name
  includes := includesOf o (Member.leavesAll (keptSlots o n.functions))
  functions := (keptSlots o n.functions).flatMap slotParts
  rows := (keptSlots o n.functions).flatMap slotRow

section Files

variable {resolve : Resolver} (hresolve : ∀ f, resolve f = some wrappers)

include hresolve

/-- The binding source of a class is made without an error. -/
lemma ofClass_eq (o : Options) (c : ClassDecl) :
    ClassFile.ofClass o resolve c = .ok (.ofKept o c) := by
  have hconstructors := constructorFragments_eq hresolve (isConvertible_of_mem_keptConstructors o c)
  have hmembers := fragments_eq hresolve (isConvertible_of_mem_keptSlots o c.members)
  have hmethods : methodRows o resolve c = .ok ((keptSlots o c.members).flatMap slotRow
      ++ [⟨"__tostring", c.tostringName⟩, ⟨"__gc", c.destructorName⟩]) := by
    rw [methodRows]
    show memberRows resolve (keptSlots o c.members) >>= _ = _
    rw [memberRows_eq hresolve]
    rfl
  rw [ClassFile.ofClass, hconstructors]
  show fragments resolve (keptSlots o c.members) >>= _ = _
  rw [hmembers, hmethods, constructorRows_eq hresolve]
  rfl

/-- So is that of a namespace. -/
lemma ofNamespace_eq (o : Options) (n : NamespaceDecl) :
    NamespaceFile.ofNamespace o resolve n = .ok (.ofKept o n) := by
  have hfunctions := fragments_eq hresolve (isConvertible_of_mem_keptSlots o n.functions)
  rw [NamespaceFile.ofNamespace]
  show fragments resolve (keptSlots o n.functions) >>= _ = _
  rw [hfunctions]
  show memberRows resolve (keptSlots o n.functions) >>= _ = _
  rw [memberRows_eq hresolve]
  rfl

end Files

end LuaBinder.Lua
