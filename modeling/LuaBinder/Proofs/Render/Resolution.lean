import Mathlib.Tactic
import LuaBinder.Decl.Sketch
import LuaBinder.Proofs.Decl.Grouping
import LuaBinder.Render.Resolution

/-!
What a declaration resolves to after any sequence of events.

Binding a class binds its functions at once, while binding a namespace only leaves a renderer for
those who ask later, and dropping the namespace takes it away. What is found in the end is still
said by the events alone, and no order among them but the time matters.

* `latest?`: the last of what the events of a sequence give.
* `Binding.toMember?`, `Binding.toClass?`, `Binding.toFree?`, `Binding.toRoot?`: the renderer that
  one event gives to a function of a class, to a class, to a free function and to the namespace.
* `eq_latest?_or_of_apply`: what each event sets or leaves is, after all of them, what the latest
  one gave.
* `forMember_run`, `forClass_run`, `forFree_run`: what is found after a sequence of events.
* `nodup_keys_ofSource`, `nodup_keys_ofSources`: the functions of an owner differ in the key by
  which an event names them.
* `resolution_after_events`: resolution over whole sequences, and what dropping the namespace
  leaves as it was.
-/

namespace LuaBinder

/-! ### What events give -/

/-- The last of what the events of a sequence give. -/
def latest? {α : Type} (given : Binding → Option α) (events : List Binding) : Option α :=
  (events.filterMap given).getLast?

namespace Binding

/-- The renderer that an event gives to the namespace. -/
def toRoot? : Binding → Option Renderer
  | .bindRoot r => some r
  | _ => none

/-- The renderer that an event gives to the class with a number. -/
def toClass? (i : Nat) : Binding → Option Renderer
  | .bindClass j r => if i = j then some r else none
  | _ => none

/-- The renderer that an event gives to a function of the class with a number, on its own or with
the class. -/
def toMember? (i : Nat) (f : FunctionDecl) : Binding → Option FunctionRenderer
  | .bindClass j r => if i = j then some r.functions else none
  | .bindMember j name overload r =>
    if i = j ∧ f.name = name ∧ f.overload = overload then some r else none
  | _ => none

/-- The renderer that an event gives to a free function. -/
def toFree? (f : FunctionDecl) : Binding → Option FunctionRenderer
  | .bindFree name overload r => if f.name = name ∧ f.overload = overload then some r else none
  | _ => none

/-- The event drops the namespace. -/
def dropsRoot : Binding → Bool
  | .dropRoot => true
  | _ => false

end Binding

/-- The latest renderer of the namespace, unless it was dropped. -/
def liveRoot? (events : List Binding) : Option Renderer :=
  if events.any Binding.dropsRoot then none else latest? Binding.toRoot? events

section Latest

variable {α : Type} {given : Binding → Option α}

lemma latest?_cons (e : Binding) (events : List Binding) :
    latest? given (e :: events) = (latest? given events).or (given e) := by
  rw [latest?, latest?, List.filterMap_cons]
  cases given e with
  | none => rw [Option.or_none]
  | some a => rw [List.getLast?_cons]; cases (events.filterMap given).getLast? <;> rfl

/-- An event that gives nothing may as well not have happened. -/
lemma latest?_erase {e : Binding} (he : given e = none) (before after : List Binding) :
    latest? given (before ++ e :: after) = latest? given (before ++ after) := by
  rw [latest?, List.filterMap_append, List.filterMap_cons_none he, ← List.filterMap_append, latest?]

lemma latest?_eq_none_iff {events : List Binding} :
    latest? given events = none ↔ ∀ e ∈ events, given e = none := by
  rw [latest?, List.getLast?_eq_none_iff, List.filterMap_eq_nil_iff]

/-- What is set by every event that gives something, and left by every other one, is in the end
what the latest gave. -/
lemma eq_latest?_or_of_apply (held : Bindings → Option α)
    (hstep : ∀ b e, held (b.apply e) = (given e).or (held b)) (b : Bindings)
    (events : List Binding) : held (b.run events) = (latest? given events).or (held b) := by
  induction events generalizing b with
  | nil => rfl
  | cons e events ih =>
      calc held (b.run (e :: events))
          = (latest? given events).or (held (b.apply e)) := ih (b.apply e)
        _ = ((latest? given events).or (given e)).or (held b) := by rw [hstep, Option.or_assoc]
        _ = (latest? given (e :: events)).or (held b) := by rw [latest?_cons]

end Latest

/-! ### What is held after events -/

namespace Bindings

variable (b : Bindings) (events : List Binding)

lemma root_run : (b.run events).root = (latest? Binding.toRoot? events).or b.root := by
  refine eq_latest?_or_of_apply Bindings.root (fun b e => ?_) b events
  cases e <;> rfl

lemma ofClass_run (i : Nat) :
    (b.run events).ofClass i = (latest? (Binding.toClass? i) events).or (b.ofClass i) := by
  refine eq_latest?_or_of_apply (fun b => b.ofClass i) (fun b e => ?_) b events
  cases e with
  | bindClass j r => by_cases h : i = j <;> simp [apply, Binding.toClass?, h]
  | _ => rfl

lemma ofMember_run (i : Nat) (f : FunctionDecl) :
    (b.run events).ofMember i f.name f.overload
      = (latest? (Binding.toMember? i f) events).or (b.ofMember i f.name f.overload) := by
  refine eq_latest?_or_of_apply (fun b => b.ofMember i f.name f.overload)
    (fun b e => ?_) b events
  cases e with
  | bindClass j r => by_cases h : i = j <;> simp [apply, Binding.toMember?, h]
  | bindMember j name overload r =>
      by_cases h : i = j ∧ f.name = name ∧ f.overload = overload <;>
        simp [apply, Binding.toMember?, h]
  | _ => rfl

lemma ofFree_run (f : FunctionDecl) :
    (b.run events).ofFree f.name f.overload
      = (latest? (Binding.toFree? f) events).or (b.ofFree f.name f.overload) := by
  refine eq_latest?_or_of_apply (fun b => b.ofFree f.name f.overload)
    (fun b e => ?_) b events
  cases e with
  | bindFree name overload r =>
      by_cases h : f.name = name ∧ f.overload = overload <;> simp [apply, Binding.toFree?, h]
  | _ => rfl

/-- The namespace lives until an event drops it. -/
lemma rootAlive_run :
    (b.run events).rootAlive = (b.rootAlive && ! events.any Binding.dropsRoot) := by
  induction events generalizing b with
  | nil => simp [run]
  | cons e events ih =>
      have hstep : (b.apply e).rootAlive = (b.rootAlive && ! e.dropsRoot) := by
        cases e <;> simp [apply, Binding.dropsRoot]
      calc (b.run (e :: events)).rootAlive
          = ((b.apply e).rootAlive && ! events.any Binding.dropsRoot) := ih (b.apply e)
        _ = (b.rootAlive && ! (e :: events).any Binding.dropsRoot) := by
            rw [hstep, List.any_cons, Bool.not_or, Bool.and_assoc]

/-! ### What is found after events -/

/-- The namespace gives its latest renderer while it lives. -/
lemma forRoot_run : (run {} events).forRoot = liveRoot? events := by
  rw [forRoot, rootAlive_run, root_run, liveRoot?]
  cases events.any Binding.dropsRoot <;> simp

/-- A class has its own latest renderer, else that of the living namespace. -/
lemma forClass_run (g : DeclGraph) (i : Nat) :
    (run {} events).forClass g i = (latest? (Binding.toClass? i) events).or
      (if g.inRoot i then liveRoot? events else none) := by
  rw [forClass, ofClass_run, forRoot_run, Option.or_none]

/-- What is bound to a class is bound to its functions. -/
lemma toClass?_eq_none {i : Nat} {f : FunctionDecl} {e : Binding}
    (h : Binding.toMember? i f e = none) : Binding.toClass? i e = none := by
  cases e with
  | bindClass j r =>
      rw [Binding.toMember?] at h
      rw [Binding.toClass?]
      split at h
      · cases h
      · next hne => rw [if_neg hne]
  | _ => rfl

lemma isSome_latest?_toMember? {events : List Binding} {i : Nat} (f : FunctionDecl)
    (h : (latest? (Binding.toClass? i) events).isSome) :
    (latest? (Binding.toMember? i f) events).isSome := by
  rw [Option.isSome_iff_ne_none] at h ⊢
  refine mt (fun hnone => ?_) h
  rw [latest?_eq_none_iff] at hnone ⊢
  exact fun e he => toClass?_eq_none (hnone e he)

/-- A function of a class has the latest renderer that was bound to itself or to its class, else
that of the living namespace. -/
lemma forMember_run (g : DeclGraph) (i : Nat) (f : FunctionDecl) :
    (run {} events).forMember g i f = (latest? (Binding.toMember? i f) events).or
      (if g.inRoot i then (liveRoot? events).map Renderer.functions else none) := by
  rw [forMember, ofMember_run, classDefault, forClass_run, Option.or_none]
  cases hmember : latest? (Binding.toMember? i f) events with
  | some r => rfl
  | none =>
      -- no class binding can hide behind a function that was never bound
      have hclass : latest? (Binding.toClass? i) events = none := by
        by_contra hne
        have hsome := isSome_latest?_toMember? f (Option.isSome_iff_ne_none.mpr hne)
        rw [hmember] at hsome
        cases hsome
      rw [hclass]
      cases g.inRoot i <;> rfl

/-- A free function has its own latest renderer, else that of the living namespace. -/
lemma forFree_run (f : FunctionDecl) :
    (run {} events).forFree f = (latest? (Binding.toFree? f) events).or
      ((liveRoot? events).map Renderer.functions) := by
  rw [forFree, ofFree_run, rootDefault, forRoot_run, Option.or_none]

/-! ### Dropping the namespace -/

variable {before after : List Binding}

/-- A function that was bound, on its own or with its class, does not miss the namespace. -/
lemma forMember_dropRoot (g : DeclGraph) {i : Nat} {f : FunctionDecl}
    (h : (latest? (Binding.toMember? i f) (before ++ after)).isSome) :
    (run {} (before ++ .dropRoot :: after)).forMember g i f
      = (run {} (before ++ after)).forMember g i f := by
  rw [forMember_run, forMember_run, latest?_erase (e := .dropRoot) rfl, Option.or_of_isSome h,
    Option.or_of_isSome h]

lemma forFree_dropRoot {f : FunctionDecl}
    (h : (latest? (Binding.toFree? f) (before ++ after)).isSome) :
    (run {} (before ++ .dropRoot :: after)).forFree f = (run {} (before ++ after)).forFree f := by
  rw [forFree_run, forFree_run, latest?_erase (e := .dropRoot) rfl, Option.or_of_isSome h,
    Option.or_of_isSome h]

/-- A class that was bound does not miss it either, and neither do the functions in its text. -/
lemma renderClass_dropRoot (g : DeclGraph) {i : Nat} (c : ClassDecl)
    (h : (latest? (Binding.toClass? i) (before ++ after)).isSome) :
    (run {} (before ++ .dropRoot :: after)).renderClass g i c
      = (run {} (before ++ after)).renderClass g i c := by
  have hclass : (run {} (before ++ .dropRoot :: after)).forClass g i
      = (run {} (before ++ after)).forClass g i := by
    rw [forClass_run, forClass_run, latest?_erase (e := .dropRoot) rfl, Option.or_of_isSome h,
      Option.or_of_isSome h]
  have hmembers : (run {} (before ++ .dropRoot :: after)).forMember g i
      = (run {} (before ++ after)).forMember g i :=
    funext fun f => forMember_dropRoot g (isSome_latest?_toMember? f h)
  rw [renderClass, renderClass, hclass, hmembers]

end Bindings

/-! ### Functions without a renderer -/

lemma requireRenderer_of_none {resolve : Resolver} {f : FunctionDecl} (h : resolve f = none) :
    requireRenderer resolve f = .error (.unboundRenderer f.qualifiedName) := by
  rw [requireRenderer, h]

lemma renderWith_of_none {resolve : Resolver} {f : FunctionDecl} (h : resolve f = none) :
    renderWith resolve f = .error (.unboundRenderer f.qualifiedName) := by
  rw [renderWith, requireRenderer_of_none h]
  rfl

lemma identifierWith_of_none {resolve : Resolver} {f : FunctionDecl} (h : resolve f = none)
    (index : Option Nat) :
    identifierWith resolve f index = .error (.unboundRenderer f.qualifiedName) := by
  rw [identifierWith, requireRenderer_of_none h]
  rfl

/-- Equal renderers write equal texts. -/
lemma renderWith_congr {resolve other : Resolver} {f : FunctionDecl} (h : resolve f = other f) :
    renderWith resolve f = renderWith other f := by
  rw [renderWith, renderWith, requireRenderer, requireRenderer, h]

lemma identifierWith_congr {resolve other : Resolver} {f : FunctionDecl}
    (h : resolve f = other f) (index : Option Nat) :
    identifierWith resolve f index = identifierWith other f index := by
  rw [identifierWith, identifierWith, requireRenderer, requireRenderer, h]

/-! ### The functions that an event names -/

/-- What an event names a function of an owner by. -/
def FunctionDecl.key (f : FunctionDecl) : String × Option Nat := (f.name, f.overload)

lemma FunctionsOf.nodup_keys {owner : Owner} {name : String} {nodes : List Element}
    {fs : List FunctionDecl} (h : FunctionsOf owner name nodes fs) :
    (fs.map FunctionDecl.key).Nodup := by
  have hlength : fs.length = nodes.length := by rw [← h.declared, List.length_map]
  have hnumbers : (fs.map FunctionDecl.overload).Nodup := by
    match hnodes : nodes.length with
    | 0 => simp [List.length_eq_zero_iff.mp (hlength.trans hnodes)]
    | 1 => rw [h.single hnodes]; exact List.nodup_singleton _
    | k + 2 =>
        rw [h.several (by omega)]
        exact (List.nodup_range' ..).map (Option.some_injective _)
  have hsnd : (fs.map FunctionDecl.key).map Prod.snd = fs.map FunctionDecl.overload := by
    rw [List.map_map]
    rfl
  exact List.Nodup.of_map Prod.snd (hsnd ▸ hnumbers)

lemma HoldsSlot.nodup_keys {owner : Owner} {name : String} {nodes : List Element}
    {m : Member FunctionDecl} (h : HoldsSlot owner name nodes m) :
    (m.leaves.map FunctionDecl.key).Nodup := by
  cases h with
  | leaf h => exact h.nodup_keys
  | group h several =>
      rw [Member.leaves, Member.leavesAll_map_leaf]
      exact h.nodup_keys

/-- Functions of different names have different keys. -/
lemma nodup_keys_append {fs gs : List FunctionDecl} (hfs : (fs.map FunctionDecl.key).Nodup)
    (hgs : (gs.map FunctionDecl.key).Nodup) (hne : ∀ f ∈ fs, ∀ g ∈ gs, f.name ≠ g.name) :
    ((fs ++ gs).map FunctionDecl.key).Nodup := by
  rw [List.map_append, List.nodup_append]
  refine ⟨hfs, hgs, fun x hx y hy heq => ?_⟩
  obtain ⟨f, hf, rfl⟩ := List.mem_map.mp hx
  obtain ⟨g, hg, rfl⟩ := List.mem_map.mp hy
  exact hne f hf g hg (congrArg Prod.fst heq)

lemma nodup_keys_leavesAll {owner : Owner} {nodes : List Element} {names : List String}
    {members : List (Member FunctionDecl)} (h : HoldsSlots owner nodes names members)
    (hnames : names.Nodup) : ((Member.leavesAll members).map FunctionDecl.key).Nodup := by
  induction h with
  | nil => exact List.nodup_nil
  | @cons name m names members hm hms ih =>
      obtain ⟨hname, hnames⟩ := List.nodup_cons.mp hnames
      refine nodup_keys_append hm.nodup_keys (ih hnames) fun f hf g hg heq => hname ?_
      rw [← (hm.named_of_mem f hf).2.2, heq]
      exact (named_of_mem_leavesAll hms hg).2

/-- The functions of a class differ in their keys. -/
lemma nodup_keys_ofSource (library : Option String) (source : ClassSource) :
    ((ClassDecl.ofSource library source).functions.map FunctionDecl.key).Nodup := by
  have hgroups := grouping_ofSource library source
  refine nodup_keys_append hgroups.constructed.nodup_keys
    (nodup_keys_leavesAll hgroups.slots hgroups.nodup) fun f hf g hg heq => ?_
  have hname := (named_of_mem_leavesAll hgroups.slots hg).2
  rw [← heq, (hgroups.constructed.named f hf).2.2] at hname
  exact ((hgroups.mem_names _).mp hname).2 rfl

/-- So do the free functions of a namespace. -/
lemma nodup_keys_ofSources (name : String) (classes : List ClassSource)
    (functions : List Element) :
    ((NamespaceDecl.ofSources name classes functions).freeFunctions.map
      FunctionDecl.key).Nodup := by
  have hgroups := grouping_ofSources name classes functions
  exact nodup_keys_leavesAll hgroups.slots hgroups.nodup

/-! ### Whole sequences -/

/-- **Resolution after any sequence of events.** A function of a class has the latest renderer that
was bound to itself or to its class; failing that, and for a class and a free function failing one
of their own, it is the latest renderer of the namespace as long as this lives. A function without a
renderer has neither a text nor an identifier, and the error names it. Dropping the namespace
changes nothing for those that were bound on their own or with their class. -/
theorem resolution_after_events (g : DeclGraph) :
    (∀ events : List Binding,
      let b := Bindings.run {} events
      (∀ i f, b.forMember g i f = (latest? (Binding.toMember? i f) events).or
          (if g.inRoot i then (liveRoot? events).map Renderer.functions else none))
        ∧ (∀ i, b.forClass g i = (latest? (Binding.toClass? i) events).or
          (if g.inRoot i then liveRoot? events else none))
        ∧ (∀ f, b.forFree f = (latest? (Binding.toFree? f) events).or
          ((liveRoot? events).map Renderer.functions))
        ∧ ∀ i f, b.forMember g i f = none →
          renderWith (b.forMember g i) f = .error (.unboundRenderer f.qualifiedName)
            ∧ ∀ index, identifierWith (b.forMember g i) f index
              = .error (.unboundRenderer f.qualifiedName))
      ∧ (∀ before after : List Binding,
        let dropped := Bindings.run {} (before ++ .dropRoot :: after)
        let kept := Bindings.run {} (before ++ after)
        (∀ i f, (latest? (Binding.toMember? i f) (before ++ after)).isSome →
          renderWith (dropped.forMember g i) f = renderWith (kept.forMember g i) f
            ∧ ∀ index, identifierWith (dropped.forMember g i) f index
              = identifierWith (kept.forMember g i) f index)
          ∧ (∀ f, (latest? (Binding.toFree? f) (before ++ after)).isSome →
            renderWith dropped.forFree f = renderWith kept.forFree f
              ∧ ∀ index, identifierWith dropped.forFree f index
                = identifierWith kept.forFree f index)
          ∧ ∀ i c, (latest? (Binding.toClass? i) (before ++ after)).isSome →
            dropped.renderClass g i c = kept.renderClass g i c)
      ∧ (∀ library source,
        ((ClassDecl.ofSource library source).functions.map FunctionDecl.key).Nodup)
      ∧ ∀ name classes functions,
        ((NamespaceDecl.ofSources name classes functions).freeFunctions.map
          FunctionDecl.key).Nodup := by
  refine ⟨fun events => ?_, fun before after => ?_, nodup_keys_ofSource, nodup_keys_ofSources⟩
  · exact ⟨Bindings.forMember_run events g, Bindings.forClass_run events g,
      Bindings.forFree_run events, fun i f hnone =>
        ⟨renderWith_of_none hnone, identifierWith_of_none hnone⟩⟩
  · refine ⟨fun i f h => ?_, fun f h => ?_, fun i c h => ?_⟩
    · have hsame := Bindings.forMember_dropRoot g h
      exact ⟨renderWith_congr hsame, identifierWith_congr hsame⟩
    · have hsame := Bindings.forFree_dropRoot h
      exact ⟨renderWith_congr hsame, identifierWith_congr hsame⟩
    · exact Bindings.renderClass_dropRoot g c h

/-- Writes a label before the name of every function. -/
def labels (label : String) : Renderer where
  renderClass := fun resolve c => (c.functions.mapM (renderWith resolve)).map String.join
  renderNamespace := fun resolve n => (n.freeFunctions.mapM (renderWith resolve)).map String.join
  functions :=
    { render := fun f => .ok (label ++ f.name ++ ";"), identifier := fun f _ => label ++ f.name }

/-- A namespace of two classes with one function each. -/
def shapesGraph : DeclGraph where
  root? := some (.ofSources "shapes" [
    { name := "Image", node := Sketch.compound "Image" "image.h",
      members := [{ name := "blur", result := "void" : Sketch }.declare] },
    { name := "Point", node := Sketch.compound "Point" "point.h",
      members := [{ name := "norm", result := "double" : Sketch }.declare] }] [])

/-- Once the namespace is dropped, a class that was bound still has its text, and the function of a
class that was not bound has none. -/
theorem resolution_without_namespace :
    let b := Bindings.run {}
      ([.bindRoot (labels "shapes_"), .bindClass 0 (labels "image_")] ++ .dropRoot :: [])
    (shapesGraph.classes.map ClassDecl.name = ["Image", "Point"])
      ∧ (∀ c ∈ shapesGraph.classes[0]?, b.renderClass shapesGraph 0 c = .ok "image_blur;")
      ∧ ∀ c ∈ shapesGraph.classes[1]?, ∀ f ∈ c.functions,
        renderWith (b.forMember shapesGraph 1) f = .error (.unboundRenderer "Point::norm") := by
  obtain ⟨hfound, hdropped, -⟩ := resolution_after_events shapesGraph
  refine ⟨by decide +kernel, fun c hc => ?_, fun c hc f hf => ?_⟩
  · obtain ⟨-, -, hclass⟩ :=
      hdropped [.bindRoot (labels "shapes_"), .bindClass 0 (labels "image_")] []
    rw [hclass 0 c rfl]
    cases hc
    rfl
  · -- the namespace was the only renderer that this function could have found
    obtain ⟨hmember, -, -, hunbound⟩ := hfound
      ([.bindRoot (labels "shapes_"), .bindClass 0 (labels "image_")] ++ .dropRoot :: [])
    rw [(hunbound 1 f ((hmember 1 f).trans rfl)).1]
    cases hc
    cases hf with
    | head => rfl
    | tail _ h => cases h

end LuaBinder
