import LuaBinder.Proofs.Decl.Grouping
import LuaBinder.Proofs.Lua.Closure
import LuaBinder.Proofs.Lua.FileDefinitions
import LuaBinder.Text.Identifier

/-!
When the C functions of a binding source have different names.

The name of a wrapper is that of its function with the overload number right behind it, so a number
can run into a name that ends with digits, and a name can be that of a hook.

* `FunctionDecl.spelled`, `SpelledApart`: a name with its number, and functions of different names
  that stay apart.
* `Spells`: names that a list of functions defines, distinct exactly when the functions stay apart;
  `Spells.append` puts lists of different names together.
* `spells_constructors`, `spells_keptSlots`: what is kept of a grouping.
* `nodup_classFile_iff`, `nodup_namespaceFile_iff`: when the definitions of a file are distinct.
* `definitions_distinct_iff`: when those of all files of a namespace are.
-/

namespace LuaBinder

/-! ### Spelled names -/

/-- The name of a function with its overload number behind it. -/
def FunctionDecl.spelled (f : FunctionDecl) : String :=
  match f.overload with
  | some (n + 1) => f.name ++ toString (n + 1)
  | _ => f.name

/-- Functions of different names are spelled differently, with their numbers and without. -/
def SpelledApart (fs : List FunctionDecl) : Prop :=
  ∀ f ∈ fs, ∀ g ∈ fs, f.name ≠ g.name → f.spelled ≠ g.name ∧ f.spelled ≠ g.spelled

instance (fs : List FunctionDecl) : Decidable (SpelledApart fs) :=
  inferInstanceAs (Decidable (∀ f ∈ fs, ∀ g ∈ fs, _ → _))

lemma spelled_of_some {f : FunctionDecl} {i : Nat} (h : f.overload = some (i + 1)) :
    f.spelled = f.name ++ toString (i + 1) := by
  rw [FunctionDecl.spelled, h]

lemma spelled_of_none {f : FunctionDecl} (h : f.overload = none) : f.spelled = f.name := by
  rw [FunctionDecl.spelled, h]

/-- A spelled name is the bare one or ends with a number. -/
lemma spelled_cases (f : FunctionDecl) :
    f.spelled = f.name ∨ ∃ i, f.spelled = f.name ++ toString (i + 1) := by
  rw [FunctionDecl.spelled]
  split
  · next i _ => exact .inr ⟨i, rfl⟩
  · exact .inl rfl

namespace Lua

open Text

lemma identifier_eq_spelled (f : FunctionDecl) :
    identifier f none = f.scope ++ "_" ++ f.spelled := by
  rw [identifier, FunctionDecl.spelled, Option.none_or]
  cases f.overload with
  | none => rfl
  | some k =>
      cases k with
      | zero => rfl
      | succ n => exact String.append_assoc

lemma identifier_zero_eq (f : FunctionDecl) :
    identifier f (some 0) = f.scope ++ "_" ++ f.name := rfl

/-- A number takes room, so a name with a number differs from the name. -/
lemma append_toString_ne (s : String) (n : Nat) : s ++ toString n ≠ s := by
  intro h
  have hlength := congrArg String.length h
  rw [String.length_append] at hlength
  have hdigits : 0 < (toString n).length := by
    rw [← String.length_toList, toList_toString_nat]
    exact Nat.length_toDigits_pos
  omega

/-- A text that ends with a number ends with a digit. -/
lemma getLast?_append_toString (s : String) (n : Nat) :
    ∃ c, (s ++ toString n).toList.getLast? = some c ∧ c.isDigit = true := by
  have hne : Nat.toDigits 10 n ≠ [] := Nat.toDigits_ne_nil
  rw [String.toList_append, toList_toString_nat, List.getLast?_append_of_ne_nil _ hne,
    List.getLast?_eq_some_getLast hne]
  exact ⟨_, rfl, Nat.isDigit_of_mem_toDigits (by decide) (by decide) (List.getLast_mem hne)⟩

/-! ### Names that functions define -/

/-- The names are those of the functions, bare and spelled, and they are distinct exactly when the
functions stay apart. -/
structure Spells (scope : String) (fs : List FunctionDecl) (names : List String) : Prop where
  mem_iff : ∀ x, x ∈ names
    ↔ ∃ f ∈ fs, x = scope ++ "_" ++ f.name ∨ x = scope ++ "_" ++ f.spelled
  nodup_iff : names.Nodup ↔ SpelledApart fs

lemma Spells.nil (scope : String) : Spells scope [] [] :=
  ⟨fun x => by simp, iff_of_true List.nodup_nil fun f hf => absurd hf List.not_mem_nil⟩

lemma spelledApart_append {fs gs : List FunctionDecl} (h : ∀ f ∈ fs, ∀ g ∈ gs, f.name ≠ g.name) :
    SpelledApart (fs ++ gs) ↔ SpelledApart fs ∧ SpelledApart gs
      ∧ ∀ f ∈ fs, ∀ g ∈ gs, f.spelled ≠ g.name ∧ g.spelled ≠ f.name ∧ f.spelled ≠ g.spelled := by
  constructor
  · intro hall
    refine ⟨fun f hf g hg => hall f (List.mem_append_left _ hf) g (List.mem_append_left _ hg),
      fun f hf g hg => hall f (List.mem_append_right _ hf) g (List.mem_append_right _ hg),
      fun f hf g hg => ?_⟩
    have hfg := hall f (List.mem_append_left _ hf) g (List.mem_append_right _ hg) (h f hf g hg)
    have hgf := hall g (List.mem_append_right _ hg) f (List.mem_append_left _ hf)
      (h f hf g hg).symm
    exact ⟨hfg.1, hgf.1, hfg.2⟩
  · rintro ⟨hfs, hgs, hcross⟩ f hf g hg hne
    rcases List.mem_append.mp hf with hf | hf <;> rcases List.mem_append.mp hg with hg | hg
    · exact hfs f hf g hg hne
    · exact ⟨(hcross f hf g hg).1, (hcross f hf g hg).2.2⟩
    · exact ⟨(hcross g hg f hf).2.1, (hcross g hg f hf).2.2.symm⟩
    · exact hgs f hf g hg hne

/-- Functions of different names put their names together. -/
lemma Spells.append {scope : String} {fs gs : List FunctionDecl} {names more : List String}
    (h : Spells scope fs names) (h' : Spells scope gs more)
    (hne : ∀ f ∈ fs, ∀ g ∈ gs, f.name ≠ g.name) : Spells scope (fs ++ gs) (names ++ more) := by
  refine ⟨fun x => ?_, ?_⟩
  · rw [List.mem_append, h.mem_iff, h'.mem_iff]
    simp only [List.mem_append, or_and_right, exists_or]
  · rw [List.nodup_append, h.nodup_iff, h'.nodup_iff, spelledApart_append hne]
    refine and_congr_right fun _ => and_congr_right fun _ => ⟨fun hall f hf g hg => ?_, ?_⟩
    · have hbare := hall _ ((h.mem_iff _).mpr ⟨f, hf, .inl rfl⟩)
      have hspelled := hall _ ((h.mem_iff _).mpr ⟨f, hf, .inr rfl⟩)
      have hbare' := (h'.mem_iff _).mpr ⟨g, hg, .inl rfl⟩
      have hspelled' := (h'.mem_iff _).mpr ⟨g, hg, .inr rfl⟩
      exact ⟨fun heq => hspelled _ hbare' (by rw [heq]),
        fun heq => hbare _ hspelled' (by rw [heq]), fun heq => hspelled _ hspelled' (by rw [heq])⟩
    · intro hcross x hx y hy heq
      obtain ⟨f, hf, hx⟩ := (h.mem_iff x).mp hx
      obtain ⟨g, hg, hy⟩ := (h'.mem_iff y).mp hy
      obtain ⟨hfg, hgf, hboth⟩ := hcross f hf g hg
      rcases hx with rfl | rfl <;> rcases hy with rfl | rfl <;>
        rw [String.append_right_inj] at heq
      · exact hne f hf g hg heq
      · exact hgf heq.symm
      · exact hfg heq
      · exact hboth heq

/-! ### Overloads -/

/-- Functions of one name that their numbers tell apart: a single one without a number, or some
with different ones. -/
structure Overloads (scope name : String) (fs : List FunctionDecl) : Prop where
  named : ∀ f ∈ fs, f.scope = scope ∧ f.name = name
  numbers : fs.map FunctionDecl.overload = [none]
    ∨ (∀ f ∈ fs, ∃ i, f.overload = some (i + 1)) ∧ (fs.map FunctionDecl.overload).Nodup

namespace Overloads

variable {scope name : String} {fs : List FunctionDecl}

lemma filter (h : Overloads scope name fs) (keep : FunctionDecl → Bool) :
    Overloads scope name (fs.filter keep) := by
  refine ⟨fun f hf => h.named f (List.mem_filter.mp hf).1, ?_⟩
  rcases h.numbers with hone | ⟨hall, hnodup⟩
  · obtain ⟨f, rfl, hf⟩ := List.map_eq_singleton_iff.mp hone
    by_cases hkeep : keep f = true
    · rw [List.filter_cons_of_pos hkeep, List.filter_nil]
      exact .inl hone
    · rw [List.filter_cons_of_neg hkeep, List.filter_nil]
      exact .inr ⟨fun _ hg => absurd hg List.not_mem_nil, List.nodup_nil⟩
  · exact .inr ⟨fun f hf => hall f (List.mem_filter.mp hf).1,
      hnodup.sublist (List.filter_sublist.map _)⟩

/-- Functions of one name stay apart. -/
lemma spelledApart (h : Overloads scope name fs) : SpelledApart fs := fun f hf g hg hne =>
  absurd ((h.named f hf).2.trans (h.named g hg).2.symm) hne

/-- A function without a number defines its bare name. -/
lemma spells_single {f : FunctionDecl} (h : Overloads scope name [f]) (hnone : f.overload = none) :
    Spells scope [f] [identifier f none] := by
  refine ⟨fun x => ?_, iff_of_true (List.nodup_singleton _) h.spelledApart⟩
  rw [identifier_eq_spelled, (h.named f List.mem_cons_self).1, spelled_of_none hnone]
  simp [spelled_of_none hnone]

/-- Numbered functions define their spelled names, and their chooser the bare one. -/
lemma spells_overloadNames (h : Overloads scope name fs)
    (hall : ∀ f ∈ fs, ∃ i, f.overload = some (i + 1)) : Spells scope fs (overloadNames fs) := by
  have hspelled : ∀ f ∈ fs, ∃ i, f.overload = some (i + 1)
      ∧ identifier f none = scope ++ "_" ++ name ++ toString (i + 1) := by
    intro f hf
    obtain ⟨i, hi⟩ := hall f hf
    obtain ⟨hscope, hname⟩ := h.named f hf
    refine ⟨i, hi, ?_⟩
    rw [identifier_eq_spelled, spelled_of_some hi, hscope, hname, ← String.append_assoc]
  have hhead : ∀ f ∈ fs, identifier f (some 0) = scope ++ "_" ++ name := by
    intro f hf
    obtain ⟨hscope, hname⟩ := h.named f hf
    rw [identifier_zero_eq, hscope, hname]
  have hnodup : (fs.map FunctionDecl.overload).Nodup := by
    rcases h.numbers with hone | ⟨-, hnodup⟩
    · rw [hone]
      exact List.nodup_singleton _
    · exact hnodup
  have hwrappers : (fs.map (identifier · none)).Nodup := by
    rw [List.Nodup, List.pairwise_map] at hnodup ⊢
    refine hnodup.imp_of_mem fun {f g} hf hg hne heq => hne ?_
    obtain ⟨i, hi, hf⟩ := hspelled f hf
    obtain ⟨j, hj, hg⟩ := hspelled g hg
    rw [hf, hg, String.append_right_inj] at heq
    rw [hi, hj, toString_nat_injective heq]
  refine ⟨fun x => ?_, iff_of_true ?_ h.spelledApart⟩
  · rw [overloadNames, List.mem_append]
    constructor
    · rintro (hx | hx)
      · obtain ⟨f, hf, rfl⟩ := List.mem_map.mp hx
        exact ⟨f, hf, .inr (by rw [identifier_eq_spelled, (h.named f hf).1])⟩
      · obtain ⟨f, hf, rfl⟩ := List.mem_map.mp hx
        have hmem := List.mem_of_head? (Option.mem_toList.mp hf)
        exact ⟨f, hmem, .inl (by rw [identifier_zero_eq, (h.named f hmem).1])⟩
    · rintro ⟨f, hf, rfl | rfl⟩
      · cases fs with
        | nil => cases hf
        | cons first rest =>
            have hfirst := hhead first List.mem_cons_self
            rw [List.head?_cons, Option.toList_some, List.map_singleton, List.mem_singleton, hfirst,
              (h.named f hf).2]
            exact .inr rfl
      · exact .inl (List.mem_map.mpr ⟨f, hf, by rw [identifier_eq_spelled, (h.named f hf).1]⟩)
  · rw [overloadNames, List.nodup_append]
    refine ⟨hwrappers, ?_, fun x hx y hy => ?_⟩
    · cases fs.head? with
      | none => exact List.nodup_nil
      | some f => exact List.nodup_singleton _
    · obtain ⟨f, hf, rfl⟩ := List.mem_map.mp hx
      obtain ⟨g, hg, rfl⟩ := List.mem_map.mp hy
      obtain ⟨i, -, hf⟩ := hspelled f hf
      rw [hf, hhead g (List.mem_of_head? (Option.mem_toList.mp hg))]
      exact append_toString_ne _ _

/-- Constructors define one name for a single one without a number, and otherwise those of
overloads. -/
lemma spells_constructorDefinitions (h : Overloads scope name fs) :
    Spells scope fs (constructorDefinitions fs) := by
  rcases h.numbers with hone | ⟨hall, -⟩
  · obtain ⟨f, rfl, hf⟩ := List.map_eq_singleton_iff.mp hone
    rw [constructorDefinitions, hf, Option.isNone_none, if_pos rfl]
    exact h.spells_single hf
  · cases fs with
    | nil => exact Spells.nil scope
    | cons f rest =>
        cases rest with
        | nil =>
            obtain ⟨i, hi⟩ := hall f List.mem_cons_self
            rw [constructorDefinitions, hi, Option.isNone_some, if_neg Bool.false_ne_true]
            exact h.spells_overloadNames hall
        | cons g rest => exact h.spells_overloadNames hall

end Overloads

lemma overloads_of_functionsOf {owner : Owner} {name : String} {nodes : List Element}
    {fs : List FunctionDecl} (h : FunctionsOf owner name nodes fs) :
    Overloads owner.name name fs := by
  refine ⟨fun f hf => (h.named f hf).2, ?_⟩
  have hlength : fs.length = nodes.length := by rw [← h.declared, List.length_map]
  match hnodes : nodes.length with
  | 0 =>
      rw [hnodes, List.length_eq_zero_iff] at hlength
      rw [hlength]
      exact .inr ⟨fun _ hf => absurd hf List.not_mem_nil, List.nodup_nil⟩
  | 1 => exact .inl (h.single hnodes)
  | k + 2 =>
      have hnumbers := h.several (by omega)
      refine .inr ⟨fun f hf => ?_, ?_⟩
      · have hmem := List.mem_map_of_mem (f := FunctionDecl.overload) hf
        rw [hnumbers] at hmem
        obtain ⟨i, hi, heq⟩ := List.mem_map.mp hmem
        obtain ⟨hi, -⟩ := List.mem_range'_1.mp hi
        exact ⟨i - 1, by rw [← heq, Nat.sub_add_cancel hi]⟩
      · rw [hnumbers]
        exact (List.nodup_range' ..).map (Option.some_injective _)

/-! ### What is kept of a grouping -/

/-- What is kept of a slot defines the names of its functions. -/
lemma spells_slotDefinitions {owner : Owner} {name : String} {nodes : List Element}
    {m kept : Member FunctionDecl} {ignore : FunctionDecl → Bool}
    (h : HoldsSlot owner name nodes m) (hkept : m.filter? ignore = some kept) :
    Spells owner.name kept.leaves (slotDefinitions kept) := by
  cases h with
  | @leaf f h =>
      rw [Member.filter?] at hkept
      split at hkept
      · cases hkept
      · cases hkept
        have hlength : nodes.length = 1 := by rw [← h.declared]; rfl
        have hnone := h.single hlength
        rw [List.map_singleton, List.singleton_inj] at hnone
        exact (overloads_of_functionsOf h).spells_single hnone
  | @group fs h several =>
      have hoverloads := overloads_of_functionsOf h
      have hall : ∀ f ∈ fs, ∃ i, f.overload = some (i + 1) := by
        rcases hoverloads.numbers with hone | ⟨hall, -⟩
        · have hlength := congrArg List.length hone
          rw [List.length_map, List.length_singleton] at hlength
          omega
        · exact hall
      rw [Member.filter?, Member.filterAll_map_leaf] at hkept
      have heq : kept = .group ((fs.filter (! ignore ·)).map .leaf) := by
        split at hkept
        · cases hkept
        · exact (Option.some.inj hkept).symm
      rw [heq, Member.leaves, slotDefinitions, Member.leavesAll_map_leaf]
      exact (hoverloads.filter _).spells_overloadNames fun f hf =>
        hall f (List.mem_filter.mp hf).1

/-- What is kept of slots with different names. -/
lemma spells_filterAll {owner : Owner} {nodes : List Element} {names : List String}
    {members : List (Member FunctionDecl)} (ignore : FunctionDecl → Bool)
    (h : HoldsSlots owner nodes names members)
    (hnodup : names.Nodup) :
    Spells owner.name (Member.leavesAll (Member.filterAll ignore members))
      ((Member.filterAll ignore members).flatMap slotDefinitions) := by
  induction h with
  | nil => exact Spells.nil _
  | @cons name m names members hm hms ih =>
      obtain ⟨hname, hnodup⟩ := List.nodup_cons.mp hnodup
      rw [Member.filterAll]
      cases hkept : m.filter? ignore with
      | none => exact ih hnodup
      | some kept =>
          refine (spells_slotDefinitions hm hkept).append (ih hnodup) fun f hf g hg heq => ?_
          have hleaves := Member.leaves_filter? ignore m
          rw [hkept, Option.toList_some, Member.leavesAll, Member.leavesAll, List.append_nil]
            at hleaves
          rw [hleaves] at hf
          rw [Member.leavesAll_filterAll] at hg
          have hgname := (named_of_mem_leavesAll hms (List.mem_filter.mp hg).1).2
          rw [← heq, (hm.named_of_mem f (List.mem_filter.mp hf).1).2.2] at hgname
          exact hname hgname

/-- The functions that get a binding. -/
def keptFunctions (o : Options) (fs : List FunctionDecl) : List FunctionDecl :=
  fs.filter (! isExcluded o ·)

/-- What is kept of the slots of a grouping. -/
lemma spells_keptSlots {owner : Owner} {nodes : List Element} {constructors : List FunctionDecl}
    {names : List String} {members : List (Member FunctionDecl)} (o : Options)
    (h : Grouping owner nodes constructors names members) :
    Spells owner.name (keptFunctions o (Member.leavesAll members))
      ((keptSlots o members).flatMap slotDefinitions) := by
  have hslots := spells_filterAll (isExcluded o) h.slots h.nodup
  rw [Member.leavesAll_filterAll] at hslots
  rwa [keptSlots, keptMembers, filterMembers_getD]

/-- What is kept of a class defines the names of its constructors and of its members. -/
lemma spells_class (o : Options) (library : Option String) (source : ClassSource) :
    Spells source.name (keptFunctions o (ClassDecl.ofSource library source).functions)
      (constructorDefinitions (keptConstructors o (.ofSource library source))
        ++ (keptSlots o (ClassDecl.ofSource library source).members).flatMap slotDefinitions) := by
  have hgroups := grouping_ofSource library source
  have hconstructors := ((overloads_of_functionsOf hgroups.constructed).filter
    (! isExcluded o ·)).spells_constructorDefinitions
  rw [keptFunctions, ClassDecl.functions, List.filter_append]
  refine hconstructors.append (spells_keptSlots o hgroups) fun f hf g hg heq => ?_
  have hg := (named_of_mem_leavesAll hgroups.slots (List.mem_filter.mp hg).1).2
  have hfname := (hgroups.constructed.named f (List.mem_filter.mp hf).1).2.2
  rw [← heq, hfname] at hg
  exact ((hgroups.mem_names _).mp hg).2 rfl

/-! ### Hooks -/

/-- A name that ends with no digit is defined exactly when a function bears it. -/
lemma Spells.mem_hook {scope hook : String} {fs : List FunctionDecl} {names : List String}
    (h : Spells scope fs names) (hlast : hook.toList.getLast?.all (! ·.isDigit) = true) :
    scope ++ "_" ++ hook ∈ names ↔ ∃ f ∈ fs, f.name = hook := by
  rw [h.mem_iff]
  refine exists_congr fun f => and_congr_right fun _ => ?_
  rw [String.append_right_inj, String.append_right_inj]
  refine ⟨?_, fun heq => .inl heq.symm⟩
  rintro (heq | heq)
  · exact heq.symm
  · rcases spelled_cases f with hbare | ⟨i, hnumber⟩
    · rw [heq, hbare]
    · obtain ⟨c, hc, hdigit⟩ := getLast?_append_toString f.name (i + 1)
      rw [heq, hnumber, hc, Option.all_some, hdigit] at hlast
      cases hlast

/-- No function bears the name of a hook. -/
@[mk_iff]
structure HooksFree (fs : List FunctionDecl) : Prop where
  destructor : ∀ f ∈ fs, f.name ≠ "destructor"
  tostring : ∀ f ∈ fs, f.name ≠ "_tostring"

instance (fs : List FunctionDecl) : Decidable (HooksFree fs) :=
  decidable_of_iff' _ (hooksFree_iff fs)

lemma Spells.nodup_append_hooks {c : ClassDecl} {fs : List FunctionDecl} {names : List String}
    (h : Spells c.name fs names) :
    (names ++ [c.destructorName, c.tostringName]).Nodup ↔ SpelledApart fs ∧ HooksFree fs := by
  have hdestructor : c.destructorName = c.name ++ "_" ++ "destructor" := by
    rw [ClassDecl.destructorName, String.append_assoc]
    rfl
  have htostring : c.tostringName = c.name ++ "_" ++ "_tostring" := by
    rw [ClassDecl.tostringName, String.append_assoc]
    rfl
  have hne : c.destructorName ≠ c.tostringName := by
    rw [hdestructor, htostring, Ne, String.append_right_inj]
    decide
  have hpair : [c.destructorName, c.tostringName].Nodup := by simp [hne]
  have hmem : (∀ x ∈ names, ∀ y ∈ [c.destructorName, c.tostringName], x ≠ y)
      ↔ c.destructorName ∉ names ∧ c.tostringName ∉ names := by
    constructor
    · intro hall
      exact ⟨fun hx => hall _ hx _ List.mem_cons_self rfl,
        fun hx => hall _ hx _ (List.mem_cons_of_mem _ List.mem_cons_self) rfl⟩
    · rintro ⟨hd, ht⟩ x hx y hy rfl
      rcases List.mem_cons.mp hy with rfl | hy
      · exact hd hx
      · exact ht (List.mem_singleton.mp hy ▸ hx)
  rw [List.nodup_append, h.nodup_iff, hmem, hdestructor, htostring, h.mem_hook (by decide),
    h.mem_hook (by decide)]
  rw [hdestructor, htostring] at hpair
  constructor
  · rintro ⟨hapart, -, hd, ht⟩
    exact ⟨hapart, fun f hf heq => hd ⟨f, hf, heq⟩, fun f hf heq => ht ⟨f, hf, heq⟩⟩
  · rintro ⟨hapart, hfree⟩
    exact ⟨hapart, hpair, fun ⟨f, hf, heq⟩ => hfree.destructor f hf heq,
      fun ⟨f, hf, heq⟩ => hfree.tostring f hf heq⟩

/-! ### Files -/

/-- The definitions of a class file are distinct exactly when the functions of the class stay apart
and none bears the name of a hook. -/
lemma nodup_classFile_iff {o : Options} {library : Option String} {source : ClassSource}
    (h : UnbrokenClass o (.ofSource library source)) :
    (definedNames (keptClassFile o (.ofSource library source)).content).Nodup
      ↔ SpelledApart (keptFunctions o (ClassDecl.ofSource library source).functions)
        ∧ HooksFree (keptFunctions o (ClassDecl.ofSource library source).functions) := by
  have hhooks := Spells.nodup_append_hooks (c := .ofSource library source)
    (spells_class o library source)
  rw [definedNames_classFile h, classDefinitions, ← hhooks, List.append_assoc]
  -- the hooks stand between the constructors and the members
  refine List.Perm.nodup_iff ?_
  rw [List.append_assoc]
  exact List.perm_append_comm.append_left _

/-- The definitions of a namespace file are distinct exactly when the free functions stay apart. -/
lemma nodup_namespaceFile_iff {o : Options} {name : String} {classes : List ClassSource}
    {functions : List Element} (h : UnbrokenFunctions o (.ofSources name classes functions)) :
    (definedNames (NamespaceFile.ofKept o (.ofSources name classes functions)).text).Nodup
      ↔ SpelledApart
        (keptFunctions o (NamespaceDecl.ofSources name classes functions).freeFunctions) := by
  rw [definedNames_namespaceFile h]
  exact (spells_keptSlots o (grouping_ofSources name classes functions)).nodup_iff

/-- Without a file of free functions none of them is kept. -/
lemma forall_keptNamespaceFile?_iff {o : Options} {name : String} {classes : List ClassSource}
    {functions : List Element} (h : UnbrokenFunctions o (.ofSources name classes functions)) :
    (∀ file ∈ (keptNamespaceFile? o (.ofSources name classes functions)).toList,
        (definedNames file.content).Nodup)
      ↔ SpelledApart
        (keptFunctions o (NamespaceDecl.ofSources name classes functions).freeFunctions) := by
  rw [← nodup_namespaceFile_iff h, keptNamespaceFile?]
  split
  · next hnone =>
      rw [List.isEmpty_iff] at hnone
      rw [definedNames_namespaceFile h, hnone]
      exact iff_of_true (List.forall_mem_nil _) List.nodup_nil
  · exact List.forall_mem_singleton

/-- **Distinct definitions.** The C functions that a generated file defines have different names
exactly when no number makes a function look like one of another name, and no function of a class
bears the name of a hook. -/
theorem definitions_distinct_iff (o : Options) (name : String) (classes : List ClassSource)
    (functions : List Element) (n : NamespaceDecl) (hn : n = .ofSources name classes functions)
    (hclasses : ∀ c ∈ n.classes, UnbrokenClass o c) (hfunctions : UnbrokenFunctions o n) :
    ∃ files, preview o (boundTo o n).1 (boundTo o n).2 n = .ok files
      ∧ ((∀ file ∈ files, (definedNames file.content).Nodup)
        ↔ (∀ c ∈ n.classes, SpelledApart (keptFunctions o c.functions)
            ∧ HooksFree (keptFunctions o c.functions))
          ∧ SpelledApart (keptFunctions o n.freeFunctions)) := by
  subst hn
  refine ⟨_, preview_boundTo o _, ?_⟩
  have hsupport : (definedNames supportFile.content).Nodup := by
    rw [show supportFile.content = supportHeader from rfl, definedNames_supportHeader]
    exact List.nodup_nil
  simp only [keptFiles, List.forall_mem_append, List.forall_mem_map, List.forall_mem_singleton,
    forall_keptNamespaceFile?_iff hfunctions]
  rw [and_iff_left hsupport]
  refine and_congr_left fun _ => forall₂_congr fun c hc => ?_
  have hunbroken := hclasses c hc
  obtain ⟨source, -, rfl⟩ := List.mem_map.mp hc
  exact nodup_classFile_iff hunbroken

/-- Overloads whose numbers meet no other name. -/
theorem definitions_distinct_image :
    (∀ c ∈ (NamespaceDecl.ofSources "dub" [imageSource] []).classes, UnbrokenClass {} c)
      ∧ UnbrokenFunctions {} (.ofSources "dub" [imageSource] [])
      ∧ ∃ files, preview {} (boundTo {} (.ofSources "dub" [imageSource] [])).1
          (boundTo {} (.ofSources "dub" [imageSource] [])).2 (.ofSources "dub" [imageSource] [])
            = .ok files
        ∧ ∀ file ∈ files, (definedNames file.content).Nodup := by
  have hclasses : ∀ c ∈ (NamespaceDecl.ofSources "dub" [imageSource] []).classes,
      UnbrokenClass {} c := by decide +kernel
  have hfunctions : UnbrokenFunctions {} (.ofSources "dub" [imageSource] []) := by decide +kernel
  refine ⟨hclasses, hfunctions, ?_⟩
  obtain ⟨files, hfiles, hiff⟩ :=
    definitions_distinct_iff {} "dub" [imageSource] [] _ rfl hclasses hfunctions
  exact ⟨files, hfiles, hiff.mpr (by decide +kernel)⟩

/-- A class with two overloads and a member that is spelled like the first of them. -/
def scale1Source : ClassSource :=
  { imageSource with
    members := imageSource.members
      ++ [{ name := "scale1", result := "void" : Sketch }.declare] }

/-- The number of an overload runs into the name of another member, although all names are
identifiers. -/
theorem definitions_shared_scale1 :
    isIdentifier scale1Source.name = true
      ∧ (∀ node ∈ scale1Source.members, isIdentifier (declaredName node) = true)
      ∧ ∃ files, preview {} (boundTo {} (.ofSources "dub" [scale1Source] [])).1
          (boundTo {} (.ofSources "dub" [scale1Source] [])).2 (.ofSources "dub" [scale1Source] [])
            = .ok files
        ∧ ∃ file ∈ files, ¬ (definedNames file.content).Nodup := by
  refine ⟨by decide, by decide +kernel, _, preview_boundTo _ _,
    keptClassFile {} (.ofSource (some "dub") scale1Source), ?_, ?_⟩
  · rw [keptFiles, List.append_assoc]
    exact List.mem_append_left _ List.mem_cons_self
  · have hclass : UnbrokenClass {} (.ofSource (some "dub") scale1Source) := by decide +kernel
    rw [definedNames_classFile hclass]
    decide +kernel

end Lua

end LuaBinder
