import Mathlib.Tactic
import LuaBinder.Decl.Class

/-!
The functions below the member lists of classes and namespaces.

* `Member.first?_eq_head?_leaves`: the first member of a node is the first of its leaves.
* `Member.leavesAll_filterAll`: a filter keeps those leaves that it does not ignore, in order.
* `Member.filter?_eq_none_iff`, `Member.filter?_congr`: when a node is gone, and what a filter looks
  at.
* `ClassDecl.exists_node_of_mem`, `NamespaceDecl.exists_node_of_mem`: every function of a class or
  of a namespace has the name of one of its declarations and the scope of its owner.
-/

namespace LuaBinder

/-! ### Leaves -/

namespace Member

variable {α : Type}

mutual

/-- The first member of a node is the first of its leaves. -/
lemma first?_eq_head?_leaves (m : Member α) : m.first? = m.leaves.head? := by
  cases m with
  | leaf member => rfl
  | group members => rw [first?, leaves, firstOf?_eq_head?_leavesAll]

lemma firstOf?_eq_head?_leavesAll (ms : List (Member α)) : firstOf? ms = (leavesAll ms).head? := by
  cases ms with
  | nil => rfl
  | cons m ms =>
      rw [firstOf?, leavesAll, List.head?_append, first?_eq_head?_leaves,
        firstOf?_eq_head?_leavesAll]

end

mutual

/-- A node keeps those leaves that are not ignored; none is left where the node is gone. -/
lemma leaves_filter? (ignore : α → Bool) (m : Member α) :
    leavesAll (m.filter? ignore).toList = m.leaves.filter (! ignore ·) := by
  cases m with
  | leaf member =>
      rw [filter?, leaves]
      by_cases h : ignore member = true
      · simp [h, leavesAll]
      · simp [h, leavesAll, leaves]
  | group members =>
      rw [filter?, leaves, ← leavesAll_filterAll]
      cases filterAll ignore members with
      | nil => rfl
      | cons m ms => simp [leavesAll, leaves]

/-- A filter keeps those leaves that it does not ignore, in order. -/
lemma leavesAll_filterAll (ignore : α → Bool) (ms : List (Member α)) :
    leavesAll (filterAll ignore ms) = (leavesAll ms).filter (! ignore ·) := by
  cases ms with
  | nil => rfl
  | cons m ms =>
      rw [filterAll, leavesAll, List.filter_append, ← leaves_filter? ignore m,
        ← leavesAll_filterAll ignore ms]
      cases m.filter? ignore with
      | none => rfl
      | some kept => simp [leavesAll]

end

mutual

/-- A node is gone exactly when all its leaves are ignored. -/
lemma filter?_eq_none_iff (ignore : α → Bool) (m : Member α) :
    m.filter? ignore = none ↔ ∀ a ∈ m.leaves, ignore a = true := by
  cases m with
  | leaf member => simp [filter?, leaves]
  | group members =>
      rw [filter?, leaves, ← filterAll_eq_nil_iff]
      cases filterAll ignore members <;> simp

lemma filterAll_eq_nil_iff (ignore : α → Bool) (ms : List (Member α)) :
    filterAll ignore ms = [] ↔ ∀ a ∈ leavesAll ms, ignore a = true := by
  cases ms with
  | nil => simp [filterAll, leavesAll]
  | cons m ms =>
      rw [filterAll, leavesAll, List.forall_mem_append, ← filter?_eq_none_iff,
        ← filterAll_eq_nil_iff]
      cases m.filter? ignore <;> simp

end

mutual

/-- Filters that agree on the leaves of a node leave the same of it. -/
lemma filter?_congr {ignore other : α → Bool} (m : Member α)
    (h : ∀ a ∈ m.leaves, ignore a = other a) : m.filter? ignore = m.filter? other := by
  cases m with
  | leaf member => rw [filter?, filter?, h member List.mem_cons_self]
  | group members => rw [filter?, filter?, filterAll_congr members h]

lemma filterAll_congr {ignore other : α → Bool} (ms : List (Member α))
    (h : ∀ a ∈ leavesAll ms, ignore a = other a) : filterAll ignore ms = filterAll other ms := by
  cases ms with
  | nil => rfl
  | cons m ms =>
      rw [leavesAll, List.forall_mem_append] at h
      rw [filterAll, filterAll, filter?_congr m h.1, filterAll_congr ms h.2]

end

/-- Slots are filtered one by one. -/
lemma filterAll_eq_filterMap (ignore : α → Bool) (ms : List (Member α)) :
    filterAll ignore ms = ms.filterMap (filter? ignore) := by
  induction ms with
  | nil => rfl
  | cons m ms ih => rw [filterAll, List.filterMap_cons, ih]; cases m.filter? ignore <;> rfl

lemma leavesAll_map_leaf (as : List α) : leavesAll (as.map .leaf) = as := by
  induction as with
  | nil => rfl
  | cons a as ih => rw [List.map_cons, leavesAll, ih, leaves, List.singleton_append]

lemma filterAll_map_leaf (ignore : α → Bool) (as : List α) :
    filterAll ignore (as.map .leaf) = (as.filter (! ignore ·)).map .leaf := by
  induction as with
  | nil => rfl
  | cons a as ih =>
      rw [List.map_cons, filterAll, filter?, ih]
      cases h : ignore a with
      | true => rw [List.filter_cons_of_neg (by simp [h])]; rfl
      | false => rw [List.filter_cons_of_pos (by simp [h])]; rfl

lemma mem_leavesAll {ms : List (Member α)} {a : α} :
    a ∈ leavesAll ms ↔ ∃ m ∈ ms, a ∈ m.leaves := by
  induction ms with
  | nil => simp [leavesAll]
  | cons m ms ih => rw [leavesAll, List.mem_append, ih, List.exists_mem_cons_iff]

end Member

/-- What is kept of a member list, nothing where the list is gone. -/
lemma filterMembers_getD {α : Type} (ignore : α → Bool) (ms : List (Member α)) :
    (filterMembers ignore ms).getD [] = Member.filterAll ignore ms := by
  rw [filterMembers]
  cases Member.filterAll ignore ms with
  | nil => rfl
  | cons m ms => rfl

/-! ### Declared functions -/

lemma leaves_slot (fs : List FunctionDecl) : (slot fs).leaves = fs := by
  match fs with
  | [] => rfl
  | [f] => rfl
  | f :: g :: fs => exact Member.leavesAll_map_leaf (f :: g :: fs)

lemma mem_of_mem_distinct {α : Type} [BEq α] {as : List α} {a : α} (h : a ∈ distinct as) :
    a ∈ as := by
  induction as with
  | nil => exact h
  | cons b bs ih =>
      rw [distinct] at h
      rcases List.mem_cons.mp h with rfl | h
      · exact List.mem_cons_self
      · exact List.mem_cons_of_mem b (ih (List.mem_filter.mp h).1)

/-- A function of an owner is named by one of the declarations. -/
lemma exists_node_of_mem_overloads {owner : Owner} {nodes : List Element}
    {group : String × List FunctionDecl} {f : FunctionDecl} (hgroup : group ∈ overloads owner nodes)
    (hf : f ∈ group.2) : f.scope = owner.name ∧ ∃ node ∈ nodes, f.name = declaredName node := by
  rw [overloads] at hgroup
  obtain ⟨⟨name, members⟩, hkey, rfl⟩ := List.mem_map.mp hgroup
  rw [groupByKey] at hkey
  obtain ⟨key, hdistinct, heq⟩ := List.mem_map.mp hkey
  cases heq
  obtain ⟨node, hnode, rfl⟩ := List.mem_map.mp (mem_of_mem_distinct hdistinct)
  obtain ⟨⟨node', i⟩, -, rfl⟩ := List.mem_map.mp hf
  exact ⟨rfl, node, hnode, rfl⟩

/-- A function of a class has the name of the class as its scope. -/
lemma ClassDecl.exists_node_of_mem {library : Option String} {source : ClassSource}
    {f : FunctionDecl} (h : f ∈ (ClassDecl.ofSource library source).functions) :
    f.scope = source.name ∧ ∃ node ∈ source.members, f.name = declaredName node := by
  rw [ClassDecl.functions, List.mem_append] at h
  rcases h with h | h
  · obtain ⟨group, hgroup, hf⟩ := List.mem_flatMap.mp h
    exact exists_node_of_mem_overloads (List.mem_filter.mp hgroup).1 hf
  · obtain ⟨m, hm, hf⟩ := Member.mem_leavesAll.mp h
    obtain ⟨group, hgroup, rfl⟩ := List.mem_map.mp hm
    rw [leaves_slot] at hf
    exact exists_node_of_mem_overloads (List.mem_filter.mp hgroup).1 hf

/-- A free function has the name of the namespace as its scope. -/
lemma NamespaceDecl.exists_node_of_mem {name : String} {classes : List ClassSource}
    {functions : List Element} {f : FunctionDecl}
    (h : f ∈ (NamespaceDecl.ofSources name classes functions).freeFunctions) :
    f.scope = name ∧ ∃ node ∈ functions, f.name = declaredName node := by
  obtain ⟨m, hm, hf⟩ := Member.mem_leavesAll.mp h
  obtain ⟨group, hgroup, rfl⟩ := List.mem_map.mp hm
  rw [leaves_slot] at hf
  exact exists_node_of_mem_overloads hgroup hf

end LuaBinder
