import LuaBinder.Proofs.Code.Scopes

/-!
Variables in nested scopes.

* `declaredIn`: the variables of a scope, without those of the scopes in it.
* `ClearAll`: in no scope two variables have one name, and a relation holds between the variables of
  a scope and those of the scopes around it.
* `HidesNothing`, `HidesNoInternal`: the names differ, or they do unless both variables are
  arguments.
-/

namespace LuaBinder.Code

/-! ### Variables of scopes -/

/-- The variables that statements declare in the scope that they belong to. -/
def declaredIn : List Statement → List Variable
  | [] => []
  | .line l :: ss => l.declared ++ declaredIn ss
  | .scopes _ :: ss => declaredIn ss

/-- The variables of a scope: its first line may declare one. -/
def scopeVariables (head : Line) (body : List Statement) : List Variable :=
  head.declared ++ declaredIn body

/-- The variables of a scope have different names, and a relation holds between the variables around
the scope and those of it. -/
structure Fits (apart : Variable → Variable → Prop) (outer inner : List Variable) : Prop where
  nodup : (inner.map Variable.name).Nodup
  apart : ∀ v ∈ inner, ∀ u ∈ outer, apart u v

mutual

/-- The variables of the scopes of a statement fit into the scopes around them. -/
def Statement.Clear (apart : Variable → Variable → Prop) (outer : List Variable) :
    Statement → Prop
  | .line _ => True
  | .scopes s => s.Clear apart outer

/-- The variables of scopes fit into the scopes around them, and so do those of the scopes in
them. -/
def Scopes.Clear (apart : Variable → Variable → Prop) (outer : List Variable) : Scopes → Prop
  | .last head body =>
    Fits apart outer (scopeVariables head body)
      ∧ ClearAll apart (outer ++ scopeVariables head body) body
  | .next head body rest =>
    (Fits apart outer (scopeVariables head body)
      ∧ ClearAll apart (outer ++ scopeVariables head body) body) ∧ rest.Clear apart outer

/-- The variables of the scopes of some statements fit into the scopes around them. -/
def ClearAll (apart : Variable → Variable → Prop) (outer : List Variable) :
    List Statement → Prop
  | [] => True
  | s :: ss => s.Clear apart outer ∧ ClearAll apart outer ss

end

/-- A variable does not hide another one: their names differ. -/
def HidesNothing (u v : Variable) : Prop := u.name ≠ v.name

/-- A variable does not hide another one, unless both are arguments. -/
def HidesNoInternal (u v : Variable) : Prop :=
  u.role = .internal ∨ v.role = .internal → u.name ≠ v.name

/-- The relation asks for different names where one of the variables is internal. -/
def Separating (apart : Variable → Variable → Prop) : Prop :=
  ∀ u v, u.role = .internal ∨ v.role = .internal → (apart u v ↔ u.name ≠ v.name)

lemma separating_hidesNothing : Separating HidesNothing := fun _ _ _ => Iff.rfl

lemma separating_hidesNoInternal : Separating HidesNoInternal := fun _ _ h =>
  ⟨fun hapart => hapart h, fun hne _ => hne⟩

section Clear

variable {apart : Variable → Variable → Prop} {outer : List Variable} {ss ts : List Statement}

lemma declaredIn_append : declaredIn (ss ++ ts) = declaredIn ss ++ declaredIn ts := by
  induction ss with
  | nil => rfl
  | cons s ss ih =>
      cases s with
      | line l => rw [List.cons_append, declaredIn, ih, declaredIn, List.append_assoc]
      | scopes s => rw [List.cons_append, declaredIn, ih, declaredIn]

lemma declaredIn_flatMap {α : Type} (statements : α → List Statement) (as : List α) :
    declaredIn (as.flatMap statements) = as.flatMap fun a => declaredIn (statements a) := by
  induction as with
  | nil => rfl
  | cons a as ih => rw [List.flatMap_cons, declaredIn_append, ih, List.flatMap_cons]

lemma clearAll_nil : ClearAll apart outer [] := trivial

lemma clearAll_iff : ClearAll apart outer ss ↔ ∀ s ∈ ss, s.Clear apart outer := by
  induction ss with
  | nil => simp [ClearAll]
  | cons s ss ih => rw [ClearAll, ih, List.forall_mem_cons]

lemma clearAll_append :
    ClearAll apart outer (ss ++ ts) ↔ ClearAll apart outer ss ∧ ClearAll apart outer ts := by
  simp only [clearAll_iff, List.forall_mem_append]

lemma clearAll_flatMap {α : Type} {statements : α → List Statement} {as : List α} :
    ClearAll apart outer (as.flatMap statements) ↔ ∀ a ∈ as, ClearAll apart outer (statements a) := by
  simp only [clearAll_iff, List.mem_flatMap]
  exact ⟨fun h a ha s hs => h s ⟨a, ha, hs⟩, fun h s ⟨a, ha, hs⟩ => h a ha s hs⟩

lemma clearAll_line {l : Line} : ClearAll apart outer (.line l :: ss) ↔ ClearAll apart outer ss := by
  rw [ClearAll, Statement.Clear, true_and]

lemma clearAll_scopes {s : Scopes} :
    ClearAll apart outer (.scopes s :: ss) ↔ s.Clear apart outer ∧ ClearAll apart outer ss := by
  rw [ClearAll, Statement.Clear]

end Clear

end LuaBinder.Code
