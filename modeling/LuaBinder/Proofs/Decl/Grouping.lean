import Mathlib.Data.List.Nodup
import LuaBinder.Proofs.Decl.Members

/-!
How classes and namespaces group their declarations.

* `nodup_distinct`, `pairwise_distinct`: the keys of a grouping, each once and in the order of
  their first occurrences.
* `perm_flatMap_filter`: a list is a permutation of its groups.
* `FunctionsOf`: the functions of one name, without a number or numbered from one.
* `HoldsSlot`: the slot of a name, a single function or a group.
* `Grouping`: a list of declarations spread over constructors and slots.
* `declarations_grouped`: the declarations of every class and of every namespace are grouped, and
  a member is found in its slot.
-/

namespace LuaBinder

/-! ### Keys -/

section Keys

variable {α κ : Type} [BEq κ] [LawfulBEq κ]

lemma mem_distinct {ks : List κ} {k : κ} : k ∈ distinct ks ↔ k ∈ ks := by
  refine ⟨mem_of_mem_distinct, fun h => ?_⟩
  induction ks with
  | nil => exact h
  | cons x xs ih =>
      rw [distinct, List.mem_cons]
      by_cases hx : k = x
      · exact .inl hx
      · refine .inr (List.mem_filter.mpr ⟨ih ((List.mem_cons.mp h).resolve_left hx), ?_⟩)
        simpa using hx

lemma nodup_distinct (ks : List κ) : (distinct ks).Nodup := by
  induction ks with
  | nil => exact List.nodup_nil
  | cons x xs ih =>
      rw [distinct, List.nodup_cons]
      refine ⟨fun h => ?_, ih.filter _⟩
      have hne := (List.mem_filter.mp h).2
      simp at hne

/-- Keys that are left out of a list are left out of its keys. -/
lemma distinct_filter (p : κ → Bool) (ks : List κ) :
    distinct (ks.filter p) = (distinct ks).filter p := by
  induction ks with
  | nil => rfl
  | cons k ks ih =>
      rw [distinct, List.filter_cons, List.filter_cons, List.filter_comm, ← ih]
      cases hk : p k with
      | true => rw [if_pos rfl, if_pos rfl, distinct]
      | false =>
          have hother : ∀ x ∈ distinct (ks.filter p), (! x == k) = true := by
            intro x hx
            have hpx := (List.mem_filter.mp (mem_distinct.mp hx)).2
            simpa using fun heq => by rw [heq, hk] at hpx; cases hpx
          rw [if_neg (by simp), if_neg (by simp), List.filter_eq_self.mpr hother]

/-- The keys stand in the order of their first occurrences. -/
lemma pairwise_distinct (ks : List κ) :
    (distinct ks).Pairwise fun a b => ks.idxOf a < ks.idxOf b := by
  induction ks with
  | nil => exact .nil
  | cons x xs ih =>
      have hne : ∀ y ∈ (distinct xs).filter (! · == x), y ≠ x := by
        intro y hy
        simpa using (List.mem_filter.mp hy).2
      rw [distinct, List.pairwise_cons]
      constructor
      · intro y hy
        rw [List.idxOf_cons_self, List.idxOf_cons_ne xs (hne y hy).symm]
        exact Nat.succ_pos _
      · refine (ih.filter _).imp_of_mem fun {a b} ha hb hab => ?_
        rw [List.idxOf_cons_ne xs (hne a ha).symm, List.idxOf_cons_ne xs (hne b hb).symm]
        exact Nat.succ_lt_succ hab

/-- Where every key of a list is listed once, the list is a permutation of its groups. -/
lemma perm_flatMap_filter {key : α → κ} {ks : List κ} (hks : ks.Nodup) {as : List α}
    (hall : ∀ a ∈ as, key a ∈ ks) : (ks.flatMap fun k => as.filter (key · == k)).Perm as := by
  induction ks generalizing as with
  | nil =>
      have hnil : as = [] := List.eq_nil_iff_forall_not_mem.mpr fun a ha =>
        absurd (hall a ha) List.not_mem_nil
      rw [hnil]
      exact .nil
  | cons k ks ih =>
      obtain ⟨hk, hks⟩ := List.nodup_cons.mp hks
      have hrest : ∀ a ∈ as.filter (! key · == k), key a ∈ ks := by
        intro a ha
        obtain ⟨ha, hne⟩ := List.mem_filter.mp ha
        exact (List.mem_cons.mp (hall a ha)).resolve_left (by simpa using hne)
      -- the groups of the other keys do not see the elements of this one
      have hgroups : (ks.flatMap fun l => (as.filter (! key · == k)).filter (key · == l))
          = ks.flatMap fun l => as.filter (key · == l) := by
        refine List.flatMap_congr fun l hl => ?_
        rw [List.filter_filter]
        refine List.filter_congr fun a _ => ?_
        by_cases hal : key a = l
        · have hne : key a ≠ k := fun h => hk (h ▸ hal ▸ hl)
          simp [hal, hal ▸ hne]
        · simp [hal]
      rw [List.flatMap_cons, ← hgroups]
      exact ((ih hks hrest).append_left _).trans (List.filter_append_perm (key · == k) as)

end Keys

/-! ### Functions of one name -/

/-- The functions of a name: one for each of its declarations, in declaration order, without a
number for a single one and numbered from one for several. -/
structure FunctionsOf (owner : Owner) (name : String) (nodes : List Element)
    (fs : List FunctionDecl) : Prop where
  declared : fs.map FunctionDecl.node = nodes
  named : ∀ f ∈ fs, f.owner = some owner ∧ f.scope = owner.name ∧ f.name = name
  single : nodes.length = 1 → fs.map FunctionDecl.overload = [none]
  several : 2 ≤ nodes.length →
    fs.map FunctionDecl.overload = (List.range' 1 nodes.length).map some

lemma functionsOf_numbered (owner : Owner) (name : String) (nodes : List Element) :
    FunctionsOf owner name nodes (numbered owner owner.name name nodes) := by
  refine ⟨?_, fun f hf => ?_, fun h => ?_, fun h => ?_⟩
  · rw [numbered, List.map_map]
    exact List.zipIdx_map_fst 0 nodes
  · obtain ⟨⟨node, i⟩, -, rfl⟩ := List.mem_map.mp hf
    exact ⟨rfl, rfl, rfl⟩
  · obtain ⟨node, rfl⟩ := List.length_eq_one_iff.mp h
    rfl
  · have hmany : nodes.length > 1 := h
    have hrange : List.range' 1 nodes.length = (List.range' 0 nodes.length).map (1 + ·) :=
      (List.map_add_range' 0 nodes.length 1).symm
    rw [numbered, List.map_map, hrange, ← List.zipIdx_map_snd 0 nodes, List.map_map, List.map_map]
    refine List.map_congr_left fun entry _ => ?_
    simp [hmany, Nat.add_comm]

/-- The slot of a name holds its functions: a single one by itself, several of them as a group of
single members. -/
inductive HoldsSlot (owner : Owner) (name : String) (nodes : List Element) :
    Member FunctionDecl → Prop where
  | leaf {f : FunctionDecl} (h : FunctionsOf owner name nodes [f]) :
    HoldsSlot owner name nodes (.leaf f)
  | group {fs : List FunctionDecl} (h : FunctionsOf owner name nodes fs) (several : 2 ≤ fs.length) :
    HoldsSlot owner name nodes (.group (fs.map .leaf))

lemma holdsSlot_slot {owner : Owner} {name : String} {nodes : List Element}
    {fs : List FunctionDecl} (h : FunctionsOf owner name nodes fs) (hne : fs ≠ []) :
    HoldsSlot owner name nodes (slot fs) := by
  match fs, h, hne with
  | [f], h, _ => exact .leaf h
  | f :: g :: rest, h, _ => exact .group h (Nat.le_add_left 2 rest.length)

namespace HoldsSlot

variable {owner : Owner} {name : String} {nodes : List Element} {m : Member FunctionDecl}

/-- A slot bears the name of its functions. -/
lemma exists_first? (h : HoldsSlot owner name nodes m) :
    ∃ f, m.first? = some f ∧ f.name = name := by
  cases h with
  | @leaf f h => exact ⟨f, rfl, (h.named f List.mem_cons_self).2.2⟩
  | @group fs h several =>
      cases fs with
      | nil => cases several
      | cons f rest => exact ⟨f, rfl, (h.named f List.mem_cons_self).2.2⟩

/-- The declarations of the functions below a slot are those of its name. -/
lemma map_node_leaves (h : HoldsSlot owner name nodes m) :
    m.leaves.map FunctionDecl.node = nodes := by
  cases h with
  | leaf h => exact h.declared
  | group h several =>
      rw [Member.leaves, Member.leavesAll_map_leaf]
      exact h.declared

/-- A function below a slot belongs to the owner and has the name of the slot. -/
lemma named_of_mem (h : HoldsSlot owner name nodes m) :
    ∀ f ∈ m.leaves, f.owner = some owner ∧ f.scope = owner.name ∧ f.name = name := by
  cases h with
  | leaf h => exact h.named
  | group h several =>
      rw [Member.leaves, Member.leavesAll_map_leaf]
      exact h.named

end HoldsSlot

/-! ### Grouped declarations -/

/-- The name that makes a function of an owner a constructor. -/
def Owner.constructorName? : Owner → Option String
  | .ofClass name _ => some name
  | .ofNamespace _ => none

/-- The declarations of a name. -/
def namedNodes (nodes : List Element) (name : String) : List Element :=
  nodes.filter (declaredName · == name)

/-- Every slot holds the functions of its name. -/
abbrev HoldsSlots (owner : Owner) (nodes : List Element) :
    List String → List (Member FunctionDecl) → Prop :=
  List.Forall₂ fun name m => HoldsSlot owner name (namedNodes nodes name) m

/-- The declarations of an owner, spread over its constructors and one slot for each of the other
names; the names of the slots follow the first declarations of each name. -/
structure Grouping (owner : Owner) (nodes : List Element) (constructors : List FunctionDecl)
    (names : List String) (members : List (Member FunctionDecl)) : Prop where
  constructed : FunctionsOf owner owner.name
    (nodes.filter fun node => owner.constructorName? == some (declaredName node)) constructors
  mem_names : ∀ name, name ∈ names
    ↔ (∃ node ∈ nodes, declaredName node = name) ∧ owner.constructorName? ≠ some name
  nodup : names.Nodup
  ordered : names.Pairwise fun a b =>
    (nodes.map declaredName).idxOf a < (nodes.map declaredName).idxOf b
  slots : HoldsSlots owner nodes names members
  lossless : ((constructors ++ Member.leavesAll members).map FunctionDecl.node).Perm nodes

/-- The names that get a slot. -/
def slotNames (owner : Owner) (nodes : List Element) : List String :=
  (distinct (nodes.map declaredName)).filter fun name => owner.constructorName? != some name

lemma overloads_eq (owner : Owner) (nodes : List Element) :
    overloads owner nodes = (distinct (nodes.map declaredName)).map fun name =>
      (name, numbered owner owner.name name (namedNodes nodes name)) := by
  rw [overloads, groupByKey, List.map_map]
  rfl

lemma mem_slotNames {owner : Owner} {nodes : List Element} {name : String} :
    name ∈ slotNames owner nodes
      ↔ (∃ node ∈ nodes, declaredName node = name) ∧ owner.constructorName? ≠ some name := by
  rw [slotNames, List.mem_filter, mem_distinct, List.mem_map, bne_iff_ne]

lemma nodup_slotNames (owner : Owner) (nodes : List Element) : (slotNames owner nodes).Nodup :=
  (nodup_distinct _).filter _

lemma map_node_leavesAll {owner : Owner} {nodes : List Element} {names : List String}
    {members : List (Member FunctionDecl)}
    (h : HoldsSlots owner nodes names members) :
    (Member.leavesAll members).map FunctionDecl.node = names.flatMap (namedNodes nodes) := by
  induction h with
  | nil => rfl
  | cons hm _ ih =>
      rw [Member.leavesAll, List.map_append, ih, hm.map_node_leaves, List.flatMap_cons]

/-- A function below slots belongs to their owner and has the name of one of them. -/
lemma named_of_mem_leavesAll {owner : Owner} {nodes : List Element} {names : List String}
    {members : List (Member FunctionDecl)} {f : FunctionDecl}
    (h : HoldsSlots owner nodes names members)
    (hf : f ∈ Member.leavesAll members) : f.owner = some owner ∧ f.name ∈ names := by
  induction h with
  | nil => cases hf
  | cons hm _ ih =>
      rcases List.mem_append.mp hf with hf | hf
      · obtain ⟨howner, -, hname⟩ := hm.named_of_mem f hf
        exact ⟨howner, hname ▸ List.mem_cons_self⟩
      · exact ⟨(ih hf).1, List.mem_cons_of_mem _ (ih hf).2⟩

/-- A grouped function belongs to the owner. -/
lemma Grouping.owner_of_mem {owner : Owner} {nodes : List Element}
    {constructors : List FunctionDecl} {names : List String} {members : List (Member FunctionDecl)}
    (h : Grouping owner nodes constructors names members) {f : FunctionDecl}
    (hf : f ∈ constructors ++ Member.leavesAll members) : f.owner = some owner := by
  rcases List.mem_append.mp hf with hf | hf
  · exact (h.constructed.named f hf).1
  · exact (named_of_mem_leavesAll h.slots hf).1

/-- Constructors and slots made from the names of the declarations group them. -/
lemma grouping_of_slotNames {owner : Owner} {nodes : List Element}
    {constructors : List FunctionDecl} {members : List (Member FunctionDecl)}
    (hconstructors : FunctionsOf owner owner.name
      (nodes.filter fun node => owner.constructorName? == some (declaredName node)) constructors)
    (hmembers : members = (slotNames owner nodes).map fun name =>
      slot (numbered owner owner.name name (namedNodes nodes name))) :
    Grouping owner nodes constructors (slotNames owner nodes) members := by
  have hslots : HoldsSlots owner nodes (slotNames owner nodes) members := by
    rw [hmembers, HoldsSlots, List.forall₂_map_right_iff, List.forall₂_same]
    intro name hname
    refine holdsSlot_slot (functionsOf_numbered owner name _) fun hnil => ?_
    obtain ⟨⟨node, hnode, heq⟩, -⟩ := mem_slotNames.mp hname
    have hmem : node ∈ namedNodes nodes name := List.mem_filter.mpr ⟨hnode, by simp [heq]⟩
    rw [numbered, List.map_eq_nil_iff, List.zipIdx_eq_nil_iff] at hnil
    rw [hnil] at hmem
    cases hmem
  refine ⟨hconstructors, fun name => mem_slotNames, nodup_slotNames owner nodes,
    (pairwise_distinct _).filter _, hslots, ?_⟩
  rw [List.map_append, hconstructors.declared, map_node_leavesAll hslots]
  cases hname : owner.constructorName? with
  | none =>
      have hall : ∀ node ∈ nodes, declaredName node ∈ slotNames owner nodes := fun node hnode =>
        mem_slotNames.mpr ⟨⟨node, hnode, rfl⟩, by simp [hname]⟩
      have hnone : (nodes.filter fun node => none == some (declaredName node)) = [] :=
        List.filter_eq_nil_iff.mpr fun node _ => by simp
      rw [hnone, List.nil_append]
      exact perm_flatMap_filter (nodup_slotNames owner nodes) hall
  | some own =>
      have hnodup : (own :: slotNames owner nodes).Nodup :=
        List.nodup_cons.mpr ⟨fun h => (mem_slotNames.mp h).2 hname, nodup_slotNames owner nodes⟩
      have hall : ∀ node ∈ nodes, declaredName node ∈ own :: slotNames owner nodes := by
        intro node hnode
        by_cases heq : declaredName node = own
        · exact heq ▸ List.mem_cons_self
        · exact List.mem_cons_of_mem _
            (mem_slotNames.mpr ⟨⟨node, hnode, rfl⟩, by simp [hname, Ne.symm heq]⟩)
      have hperm := perm_flatMap_filter hnodup hall
      rw [List.flatMap_cons] at hperm
      have hown : (nodes.filter fun node => some own == some (declaredName node))
          = nodes.filter (declaredName · == own) :=
        List.filter_congr fun node _ => by rw [Option.some_beq_some, BEq.comm]
      rw [hown]
      exact hperm

/-! ### Classes and namespaces -/

lemma filter_distinct_eq (ks : List String) (k : String) :
    (distinct ks).filter (· == k) = if k ∈ ks then [k] else [] := by
  rw [List.filter_beq, (nodup_distinct ks).count]
  by_cases h : k ∈ ks
  · rw [if_pos (mem_distinct.mpr h), if_pos h, List.replicate_one]
  · rw [if_neg (mt mem_distinct.mp h), if_neg h, List.replicate_zero]

lemma constructors_ofSource (library : Option String) (source : ClassSource) :
    (ClassDecl.ofSource library source).constructors
      = numbered (.ofClass source.name library) source.name source.name
        (namedNodes source.members source.name) := by
  show ((overloads (.ofClass source.name library) source.members).filter
    (·.1 == source.name)).flatMap (·.2) = _
  rw [overloads_eq, List.filter_map]
  show (((distinct (source.members.map declaredName)).filter (· == source.name)).map _).flatMap _
    = _
  rw [filter_distinct_eq]
  split
  · simp [Owner.name]
  · next h =>
      have hnil : namedNodes source.members source.name = [] :=
        List.filter_eq_nil_iff.mpr fun node hnode heq =>
          h (List.mem_map.mpr ⟨node, hnode, by simpa using heq⟩)
      rw [hnil]
      rfl

/-- The members of a class are the slots of its names. -/
lemma members_ofSource (library : Option String) (source : ClassSource) :
    (ClassDecl.ofSource library source).members
      = (slotNames (.ofClass source.name library) source.members).map fun name =>
        slot (numbered (.ofClass source.name library) source.name name
          (namedNodes source.members name)) := by
  show ((overloads (.ofClass source.name library) source.members).filter
    (·.1 != source.name)).map (fun group => slot group.2) = _
  rw [overloads_eq, List.filter_map, List.map_map, slotNames]
  refine congrArg _ (List.filter_congr fun name _ => ?_)
  simp [Owner.constructorName?, bne, BEq.comm]

/-- So are the free functions of a namespace. -/
lemma functions_ofSources (name : String) (classes : List ClassSource) (functions : List Element) :
    (NamespaceDecl.ofSources name classes functions).functions
      = (slotNames (.ofNamespace name) functions).map fun own =>
        slot (numbered (.ofNamespace name) name own (namedNodes functions own)) := by
  show (overloads (.ofNamespace name) functions).map (fun group => slot group.2) = _
  have hall : slotNames (.ofNamespace name) functions = distinct (functions.map declaredName) :=
    List.filter_eq_self.mpr fun name _ => by simp [Owner.constructorName?]
  rw [overloads_eq, List.map_map, hall]
  rfl

lemma grouping_ofSource (library : Option String) (source : ClassSource) :
    Grouping (.ofClass source.name library) source.members
      (ClassDecl.ofSource library source).constructors
      (slotNames (.ofClass source.name library) source.members)
      (ClassDecl.ofSource library source).members := by
  refine grouping_of_slotNames ?_ (members_ofSource library source)
  have hown : (source.members.filter fun node =>
      (Owner.ofClass source.name library).constructorName? == some (declaredName node))
        = namedNodes source.members source.name :=
    List.filter_congr fun node _ => by
      rw [Owner.constructorName?, Option.some_beq_some, BEq.comm]
  rw [hown, constructors_ofSource]
  exact functionsOf_numbered _ _ _

lemma grouping_ofSources (name : String) (classes : List ClassSource) (functions : List Element) :
    Grouping (.ofNamespace name) functions [] (slotNames (.ofNamespace name) functions)
      (NamespaceDecl.ofSources name classes functions).functions := by
  refine grouping_of_slotNames ?_ (functions_ofSources name classes functions)
  have hnone : (functions.filter fun node =>
      (Owner.ofNamespace name).constructorName? == some (declaredName node)) = [] :=
    List.filter_eq_nil_iff.mpr fun node _ => by simp [Owner.constructorName?]
  rw [hnone]
  exact functionsOf_numbered (.ofNamespace name) _ []

/-- A slot is found by the name of its functions. -/
lemma find?_slots {owner : Owner} {nodes : List Element} {names : List String}
    {members : List (Member FunctionDecl)} (name : String)
    (h : HoldsSlots owner nodes names members) :
    (members.find? (fun m => m.first?.any (·.name == name)) = none ↔ name ∉ names)
      ∧ ∀ m, members.find? (fun m => m.first?.any (·.name == name)) = some m →
        m ∈ members ∧ HoldsSlot owner name (namedNodes nodes name) m := by
  induction h with
  | nil => simp
  | @cons own m names members hm _ ih =>
      obtain ⟨f, hf, hname⟩ := hm.exists_first?
      by_cases heq : own = name
      · subst heq
        rw [List.find?_cons_of_pos (by simp [hf, hname])]
        refine ⟨by simp, fun m' hm' => ?_⟩
        cases hm'
        exact ⟨List.mem_cons_self, hm⟩
      · rw [List.find?_cons_of_neg (by simp [hf, hname, heq])]
        refine ⟨?_, fun m' hm' => ?_⟩
        · rw [ih.1, List.mem_cons, not_or]
          exact ⟨fun h => ⟨Ne.symm heq, h⟩, fun h => h.2⟩
        · exact ⟨List.mem_cons_of_mem _ (ih.2 m' hm').1, (ih.2 m' hm').2⟩

/-- **Grouping without loss.** The declarations of a class are spread over its constructors and one
slot for each of the other names, and a member is looked up in the slot of its name; the free
functions of a namespace are spread over slots alone. -/
theorem declarations_grouped :
    (∀ (library : Option String) (source : ClassSource), ∃ names : List String,
      let c := ClassDecl.ofSource library source
      let owner := Owner.ofClass source.name library
      Grouping owner source.members c.constructors names c.members
        ∧ (c.functions.map FunctionDecl.node).Perm source.members
        ∧ ∀ name, (c.member? name = none ↔ name ∉ names)
          ∧ ∀ m, c.member? name = some m →
            m ∈ c.members ∧ HoldsSlot owner name (namedNodes source.members name) m)
      ∧ ∀ (name : String) (classes : List ClassSource) (functions : List Element),
        ∃ names : List String,
          let n := NamespaceDecl.ofSources name classes functions
          Grouping (.ofNamespace name) functions [] names n.functions
            ∧ (n.freeFunctions.map FunctionDecl.node).Perm functions := by
  constructor
  · intro library source
    have hgroups := grouping_ofSource library source
    exact ⟨_, hgroups, hgroups.lossless, fun name => find?_slots name hgroups.slots⟩
  · intro name classes functions
    have hgroups := grouping_ofSources name classes functions
    exact ⟨_, hgroups, hgroups.lossless⟩

end LuaBinder
