import LuaBinder.Render.Renderer

/-!
Which renderer a declaration resolves to.

A declaration graph has at most one namespace and any number of classes outside of it. Renderers
are bound to the namespace, to classes and to functions. A function looks for its own renderer,
then for that of its class, then for that of the namespace; the namespace counts only as long as
it is alive.

* `DeclGraph`: the declarations; classes are numbered, those of the namespace first.
* `Bindings`: which renderer was bound to what, and what is still alive.
* `Binding`, `Bindings.apply`, `Bindings.run`: what can happen to the bindings.
* `Bindings.forClass`, `Bindings.forMember`, `Bindings.forFree`: resolution.
-/

namespace LuaBinder

/-! ### Declarations -/

/-- A namespace and classes outside of it. -/
structure DeclGraph where
  root? : Option NamespaceDecl
  loose : List ClassDecl := []

namespace DeclGraph

/-- The classes of the namespace. -/
def rootClasses (g : DeclGraph) : List ClassDecl :=
  match g.root? with
  | some n => n.classes
  | none => []

/-- All classes, those of the namespace first. -/
def classes (g : DeclGraph) : List ClassDecl := g.rootClasses ++ g.loose

/-- The class of a number belongs to the namespace. -/
def inRoot (g : DeclGraph) (i : Nat) : Bool := i < g.rootClasses.length

end DeclGraph

/-! ### Bindings -/

/-- The renderers bound so far. A function of a class or of a namespace is known by its name and
its overload number. -/
structure Bindings where
  root : Option Renderer := none
  ofClass : Nat → Option Renderer := fun _ => none
  ofMember : Nat → String → Option Nat → Option FunctionRenderer := fun _ _ _ => none
  ofFree : String → Option Nat → Option FunctionRenderer := fun _ _ => none
  rootAlive : Bool := true
  classesHeld : Bool := true

/-- What can happen to the bindings. -/
inductive Binding where
  | bindRoot (renderer : Renderer)
  | bindClass (i : Nat) (renderer : Renderer)
  | bindMember (i : Nat) (name : String) (overload : Option Nat) (renderer : FunctionRenderer)
  | bindFree (name : String) (overload : Option Nat) (renderer : FunctionRenderer)
  | dropRoot
  | dropClasses

namespace Bindings

/-- The bindings after one event. Binding a class binds every one of its functions too. -/
def apply (b : Bindings) : Binding → Bindings
  | .bindRoot r => { b with root := some r }
  | .bindClass i r =>
    { b with
      ofClass := fun j => if j = i then some r else b.ofClass j
      ofMember := fun j name overload =>
        if j = i then some r.functions else b.ofMember j name overload }
  | .bindMember i name overload r =>
    { b with
      ofMember := fun j n o =>
        if j = i ∧ n = name ∧ o = overload then some r else b.ofMember j n o }
  | .bindFree name overload r =>
    { b with ofFree := fun n o => if n = name ∧ o = overload then some r else b.ofFree n o }
  | .dropRoot => { b with rootAlive := false }
  | .dropClasses => { b with classesHeld := false }

/-- The bindings after a sequence of events. -/
def run (b : Bindings) (events : List Binding) : Bindings := events.foldl apply b

/-- Everything resolves to one renderer, bound to the namespace. -/
def bound (r : Renderer) : Bindings := { root := some r }

/-! ### Resolution -/

/-- The renderer of the namespace while it is alive. -/
def forRoot (b : Bindings) : Option Renderer := if b.rootAlive then b.root else none

/-- The renderer of a class: its own, else that of its namespace. -/
def forClass (b : Bindings) (g : DeclGraph) (i : Nat) : Option Renderer :=
  (b.ofClass i).or (if g.inRoot i then b.forRoot else none)

/-- The renderer that a class gives to functions without one of their own. -/
def classDefault (b : Bindings) (g : DeclGraph) (i : Nat) : Option FunctionRenderer :=
  (b.forClass g i).map Renderer.functions

/-- The renderer that the namespace gives to functions without one of their own. -/
def rootDefault (b : Bindings) : Option FunctionRenderer := b.forRoot.map Renderer.functions

/-- The renderer of a function of a class. -/
def forMember (b : Bindings) (g : DeclGraph) (i : Nat) : Resolver := fun f =>
  (b.ofMember i f.name f.overload).or (b.classDefault g i)

/-- The renderer of a free function. -/
def forFree (b : Bindings) : Resolver := fun f =>
  (b.ofFree f.name f.overload).or b.rootDefault

/-- A class is alive while its namespace is, or while it is held on its own. -/
def classAlive (b : Bindings) (g : DeclGraph) (i : Nat) : Bool :=
  b.classesHeld || (g.inRoot i && b.rootAlive)

/-! ### Rendering -/

/-- The binding source of a class. -/
def renderClass (b : Bindings) (g : DeclGraph) (i : Nat) (c : ClassDecl) :
    Except BindingError String :=
  match b.forClass g i with
  | some r => r.renderClass (b.forMember g i) c
  | none => .error (.unboundRenderer c.name)

/-- The binding source of the free functions of the namespace. -/
def renderNamespace (b : Bindings) (n : NamespaceDecl) : Except BindingError String :=
  match b.forRoot with
  | some r => r.renderNamespace b.forFree n
  | none => .error (.unboundRenderer n.name)

end Bindings

end LuaBinder
