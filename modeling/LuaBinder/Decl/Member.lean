/-!
Member lists: single members and groups, nested to any depth.

* `Member.leaves`, `Member.first?`: the members below a node, depth first, and the first of them.
* `filterMembers`: the list without the ignored members and without the groups that they leave
  empty, absent when nothing is left.
-/

namespace LuaBinder

/-- A single member, or a group of members. -/
inductive Member (α : Type) where
  | leaf (member : α)
  | group (members : List (Member α))

instance {α : Type} : Inhabited (Member α) := ⟨.group []⟩

namespace Member

variable {α β : Type}

/-- The node is a group. -/
def isGroup : Member α → Bool
  | .leaf _ => false
  | .group _ => true

mutual

/-- The members below a node, depth first. -/
def leaves : Member α → List α
  | .leaf member => [member]
  | .group members => leavesAll members

/-- The members below a list of nodes, depth first. -/
def leavesAll : List (Member α) → List α
  | [] => []
  | m :: ms => m.leaves ++ leavesAll ms

end

mutual

/-- The first member below a node. -/
def first? : Member α → Option α
  | .leaf member => some member
  | .group members => firstOf? members

/-- The first member below a list of nodes. -/
def firstOf? : List (Member α) → Option α
  | [] => none
  | m :: ms => m.first?.or (firstOf? ms)

end

mutual

/-- A node of the same shape over the images of its members. -/
def map (f : α → β) : Member α → Member β
  | .leaf member => .leaf (f member)
  | .group members => .group (mapAll f members)

/-- Nodes of the same shape over the images of their members. -/
def mapAll (f : α → β) : List (Member α) → List (Member β)
  | [] => []
  | m :: ms => m.map f :: mapAll f ms

end

mutual

/-- The node without its ignored members, absent when nothing is left of it. -/
def filter? (ignore : α → Bool) : Member α → Option (Member α)
  | .leaf member => if ignore member then none else some (.leaf member)
  | .group members =>
    match filterAll ignore members with
    | [] => none
    | kept => some (.group kept)

/-- What is left of a list of nodes. -/
def filterAll (ignore : α → Bool) : List (Member α) → List (Member α)
  | [] => []
  | m :: ms =>
    match m.filter? ignore with
    | some kept => kept :: filterAll ignore ms
    | none => filterAll ignore ms

end

end Member

/-- A member list without its ignored members, absent when nothing is left of it. -/
def filterMembers {α : Type} (ignore : α → Bool) (members : List (Member α)) :
    Option (List (Member α)) :=
  match Member.filterAll ignore members with
  | [] => none
  | kept => some kept

end LuaBinder
