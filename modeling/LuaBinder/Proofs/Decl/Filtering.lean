import LuaBinder.Proofs.Decl.Members

/-!
What a filter leaves of a nested member list.

* `Member.Filled`: no group at or below a node is empty.
* `Member.placed`: the leaves below a node, each with the groups around it.
* `Member.filled_filterAll`: a filter leaves no empty group.
* `Member.placedAll_filterAll`: the groups around a kept leaf are those around it before, each
  without its ignored members.
* `Member.filterAll_filterAll`: two filters one after the other do what one filter does that ignores
  what either ignores.
* `filterMembers_exact`: these facts about member lists, where nothing left is told from an empty
  list.
-/

namespace LuaBinder

namespace Member

variable {α : Type}

/-! ### Groups -/

mutual

/-- The node is no empty group, and none is below it. -/
def Filled : Member α → Prop
  | .leaf _ => True
  | .group members => members ≠ [] ∧ FilledAll members

/-- None of the nodes is an empty group, and none is below them. -/
def FilledAll : List (Member α) → Prop
  | [] => True
  | m :: ms => m.Filled ∧ FilledAll ms

end

mutual

/-- The leaves below a node, depth first, each behind the groups that it lies in, the outermost one
first. The groups around the node are given. -/
def placed (around : List (List (Member α))) : Member α → List (List (List (Member α)) × α)
  | .leaf member => [(around, member)]
  | .group members => placedAll (around ++ [members]) members

/-- The leaves below a list of nodes, each behind the groups that it lies in. -/
def placedAll (around : List (List (Member α))) :
    List (Member α) → List (List (List (Member α)) × α)
  | [] => []
  | m :: ms => m.placed around ++ placedAll around ms

end

/-! ### One filter -/

section Filter

variable (ignore : α → Bool)

mutual

/-- What a filter leaves of a node is filled. -/
lemma filled_filter? (m : Member α) : ∀ kept ∈ m.filter? ignore, kept.Filled := by
  intro kept hkept
  cases m with
  | leaf member =>
      rw [filter?] at hkept
      split at hkept
      · cases hkept
      · cases hkept
        trivial
  | group members =>
      have hmembers := filled_filterAll members
      rw [filter?] at hkept
      split at hkept
      · cases hkept
      · next hne =>
          cases hkept
          exact ⟨hne, hmembers⟩

/-- A filter leaves no empty group. -/
lemma filled_filterAll (ms : List (Member α)) : FilledAll (filterAll ignore ms) := by
  cases ms with
  | nil => trivial
  | cons m ms =>
      have hm := filled_filter? m
      rw [filterAll]
      split
      · next kept hkept => exact ⟨hm kept hkept, filled_filterAll ms⟩
      · exact filled_filterAll ms

end

/-- A leaf that a filter keeps, with the groups around it as the filter leaves them. -/
def keptPlace (place : List (List (Member α)) × α) : Option (List (List (Member α)) × α) :=
  if ignore place.2 then none else some (place.1.map (filterAll ignore), place.2)

mutual

lemma placed_filter? (around : List (List (Member α))) (m : Member α) :
    placedAll (around.map (filterAll ignore)) (m.filter? ignore).toList
      = (m.placed around).filterMap (keptPlace ignore) := by
  cases m with
  | leaf member =>
      rw [filter?, placed]
      by_cases h : ignore member = true
      · simp [h, keptPlace, placedAll]
      · simp [h, keptPlace, placedAll, placed]
  | group members =>
      have hmembers := placedAll_filterAll (around ++ [members]) members
      rw [List.map_append, List.map_singleton] at hmembers
      rw [filter?, placed, ← hmembers]
      cases filterAll ignore members with
      | nil => rfl
      | cons k ks => simp [placedAll, placed]

/-- The groups around a leaf that a filter keeps are those around it before, one for one, each
without its ignored members. -/
lemma placedAll_filterAll (around : List (List (Member α))) (ms : List (Member α)) :
    placedAll (around.map (filterAll ignore)) (filterAll ignore ms)
      = (placedAll around ms).filterMap (keptPlace ignore) := by
  cases ms with
  | nil => rfl
  | cons m ms =>
      rw [filterAll, placedAll, List.filterMap_append, ← placed_filter? around m,
        ← placedAll_filterAll around ms]
      cases m.filter? ignore with
      | none => rfl
      | some kept => simp [placedAll]

end

end Filter

/-! ### Two filters -/

section TwoFilters

variable (p q : α → Bool)

mutual

lemma bind_filter? (m : Member α) :
    (m.filter? p).bind (filter? q) = m.filter? fun a => p a || q a := by
  cases m with
  | leaf member =>
      rw [filter?, filter?]
      cases p member <;> simp [filter?]
  | group members =>
      rw [filter?, filter?, ← filterAll_filterAll members]
      cases filterAll p members with
      | nil => rfl
      | cons k ks => rfl

/-- What two filters leave one after the other, one filter leaves that ignores what either of them
ignores. -/
lemma filterAll_filterAll (ms : List (Member α)) :
    filterAll q (filterAll p ms) = filterAll (fun a => p a || q a) ms := by
  cases ms with
  | nil => rfl
  | cons m ms =>
      rw [filterAll, filterAll, ← bind_filter? m, ← filterAll_filterAll ms]
      cases m.filter? p with
      | none => rfl
      | some kept => rfl

end

end TwoFilters

end Member

/-! ### Member lists -/

section MemberLists

variable {α : Type} (p q : α → Bool) (ms : List (Member α))

lemma filterMembers_eq_none_iff :
    filterMembers p ms = none ↔ Member.filterAll p ms = [] := by
  rw [filterMembers]
  split
  · next hnil => simp [hnil]
  · next hne => simpa using hne

lemma eq_filterAll_of_filterMembers {kept : List (Member α)} (h : filterMembers p ms = some kept) :
    kept = Member.filterAll p ms ∧ kept ≠ [] := by
  rw [filterMembers] at h
  split at h
  · cases h
  · next hne => exact ⟨(Option.some.inj h).symm, fun hnil => hne (Option.some.inj h ▸ hnil)⟩

/-- Where the first filter leaves nothing, so do both. -/
lemma bind_filterMembers :
    (filterMembers p ms).bind (filterMembers q) = filterMembers (fun a => p a || q a) ms := by
  cases h : filterMembers p ms with
  | none =>
      have hnil := (filterMembers_eq_none_iff p ms).mp h
      have hboth : Member.filterAll (fun a => p a || q a) ms = [] := by
        rw [← Member.filterAll_filterAll, hnil]
        rfl
      exact ((filterMembers_eq_none_iff _ ms).mpr hboth).symm
  | some kept =>
      rw [(eq_filterAll_of_filterMembers p ms h).1, Option.bind_some, filterMembers, filterMembers,
        Member.filterAll_filterAll]

/-- **The filter of member lists.** Nothing is left exactly when every leaf is ignored. Otherwise
the leaves that are not ignored are left, in order; no group is empty, and each of these leaves lies
in the groups that it lay in. To filter again changes nothing, and two filters do what one does that
ignores what either of them ignores. The first member of a node is the first of its leaves. -/
theorem filterMembers_exact :
    (filterMembers p ms = none ↔ ∀ a ∈ Member.leavesAll ms, p a = true)
      ∧ (∀ kept ∈ filterMembers p ms,
        Member.leavesAll kept = (Member.leavesAll ms).filter (! p ·)
          ∧ kept ≠ [] ∧ Member.FilledAll kept
          ∧ Member.placedAll [] kept = (Member.placedAll [] ms).filterMap (Member.keptPlace p))
      ∧ (filterMembers p ms).bind (filterMembers p) = filterMembers p ms
      ∧ (filterMembers p ms).bind (filterMembers q) = filterMembers (fun a => p a || q a) ms
      ∧ ∀ m : Member α, m.first? = m.leaves.head? := by
  refine ⟨?_, fun kept hkept => ?_, ?_, bind_filterMembers p q ms, Member.first?_eq_head?_leaves⟩
  · rw [filterMembers_eq_none_iff, Member.filterAll_eq_nil_iff]
  · obtain ⟨rfl, hne⟩ := eq_filterAll_of_filterMembers p ms hkept
    exact ⟨Member.leavesAll_filterAll p ms, hne, Member.filled_filterAll p ms,
      Member.placedAll_filterAll p [] ms⟩
  · rw [bind_filterMembers]
    simp only [Bool.or_self]

end MemberLists

end LuaBinder
