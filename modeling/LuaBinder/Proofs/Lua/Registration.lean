import Mathlib.Logic.Function.Basic
import LuaBinder.Decl.Sketch
import LuaBinder.Proofs.Decl.Grouping
import LuaBinder.Proofs.Lua.Closure
import LuaBinder.Text.Identifier

/-!
What is left of the methods of a class when its table has been registered.

Lua sets the rows of a table one after the other, and a row takes the place of an earlier one of its
name. The rows of the members stand in front of three that every class adds under names of its own,
and nothing keeps a member from having one of these names.

* `register`: the rows of a table set in a table of Lua.
* `register_of_nodup`, `register_append_iff`: a row stays where no later row has its name, and in
  front of rows with names of their own it is lost as soon as one of them has it.
* `hookRows`, `methodRow`: the rows that every class adds, and the row of a member.
* `methods_ofSource`: the rows of a class, one for each name of a kept member and the three others.
* `methods_bound_iff`: which members stay bound.
-/

namespace LuaBinder.Lua

open Code Text

/-! ### Registration -/

/-- A table of Lua: the C function under each name. -/
abbrev NameTable := String → Option String

/-- A row is set under its name, whatever stood there. -/
def setRow (table : NameTable) (r : Row) : NameTable :=
  Function.update table r.name (some r.identifier)

/-- The rows are set one after the other. -/
def register (table : NameTable) (rows : List Row) : NameTable := rows.foldl setRow table

lemma register_append (table : NameTable) (rows more : List Row) :
    register table (rows ++ more) = register (register table rows) more :=
  List.foldl_append

/-- Rows of other names leave a name alone. -/
lemma register_of_not_mem {rows : List Row} {name : String} (h : name ∉ rows.map Row.name)
    (table : NameTable) : register table rows name = table name := by
  induction rows generalizing table with
  | nil => rfl
  | cons r rows ih =>
      rw [List.map_cons, List.mem_cons, not_or] at h
      show register (setRow table r) rows name = _
      rw [ih h.2, setRow, Function.update_of_ne h.1]

/-- Where no two rows have the same name, every row is set. -/
lemma register_of_nodup {rows : List Row} (h : (rows.map Row.name).Nodup) {r : Row} (hr : r ∈ rows)
    (table : NameTable) : register table rows r.name = some r.identifier := by
  induction rows generalizing table with
  | nil => cases hr
  | cons first rows ih =>
      rw [List.map_cons, List.nodup_cons] at h
      show register (setRow table first) rows r.name = _
      rcases List.mem_cons.mp hr with rfl | hr
      · rw [register_of_not_mem h.1, setRow, Function.update_self]
      · exact ih h.2 hr _

/-- A row in front of others stays exactly when none of them puts another function under its
name. -/
lemma register_append_iff {rows more : List Row} (hrows : (rows.map Row.name).Nodup)
    (hmore : (more.map Row.name).Nodup) {r : Row} (hr : r ∈ rows) (table : NameTable) :
    register table (rows ++ more) r.name = some r.identifier
      ↔ ∀ late ∈ more, late.name = r.name → late.identifier = r.identifier := by
  rw [register_append]
  by_cases hmem : r.name ∈ more.map Row.name
  · obtain ⟨late, hlate, hname⟩ := List.mem_map.mp hmem
    rw [← hname, register_of_nodup hmore hlate, Option.some_inj]
    refine ⟨fun heq other hother hsame => ?_, fun h => h late hlate rfl⟩
    rw [List.inj_on_of_nodup_map hmore hother hlate hsame, heq]
  · rw [register_of_not_mem hmem, register_of_nodup hrows hr]
    exact iff_of_true rfl fun late hlate hname => absurd (hname ▸ List.mem_map_of_mem hlate) hmem

/-! ### Rows of a class -/

/-- The rows that every class adds to those of its members. -/
def hookRows (c : ClassDecl) : List Row :=
  [⟨"__tostring", c.tostringName⟩, ⟨"__gc", c.destructorName⟩, deletedRow]

/-- The names of these rows. -/
def hookNames : List String := ["__tostring", "__gc", "deleted"]

/-- The row of the members with a name. -/
def methodRow (c : ClassDecl) (name : String) : Row := ⟨name, c.name ++ "_" ++ name⟩

lemma map_name_hookRows (c : ClassDecl) : (hookRows c).map Row.name = hookNames := rfl

lemma nodup_hookNames : hookNames.Nodup := by decide

lemma map_name_methodRow (c : ClassDecl) (names : List String) :
    (names.map (methodRow c)).map Row.name = names := by
  rw [List.map_map]
  exact List.map_id names

/-- No member has a function that a row of the class itself could stand for. -/
lemma identifier_hookRow_ne {c : ClassDecl} {hook : Row} (h : hook ∈ hookRows c) :
    hook.identifier ≠ (methodRow c hook.name).identifier := by
  have hbehind : ∀ tail name : String, tail ≠ "_" ++ name → c.name ++ tail ≠ c.name ++ "_" ++ name :=
    fun tail name hne heq => hne (by rwa [String.append_assoc, String.append_right_inj] at heq)
  simp only [hookRows, List.mem_cons, List.not_mem_nil, or_false] at h
  rcases h with rfl | rfl | rfl
  · exact hbehind "__tostring" "__tostring" (by decide)
  · exact hbehind "_destructor" "__gc" (by decide)
  · intro heq
    have hlists := congrArg String.toList heq
    simp only [deletedRow, methodRow, String.toList_append, List.append_assoc] at hlists
    have hsuffix : "_deleted".toList <:+ "dub_isDeleted".toList := ⟨c.name.toList, hlists.symm⟩
    exact absurd hsuffix (by decide)

/-! ### Rows of the members -/

section Kept

variable {owner : Owner} {nodes : List Element} (ignore : FunctionDecl → Bool)

/-- What is kept of a slot holds functions of its name, and at least one. -/
lemma named_of_filter? {name : String} {m kept : Member FunctionDecl}
    (h : HoldsSlot owner name nodes m) (hkept : m.filter? ignore = some kept) :
    kept.leaves ≠ [] ∧ ∀ f ∈ kept.leaves, f.name = name := by
  have hleaves : kept.leaves = m.leaves.filter (! ignore ·) := by
    rw [← Member.leaves_filter?, hkept, Option.toList_some, Member.leavesAll, Member.leavesAll,
      List.append_nil]
  constructor
  · intro hnil
    have hnone : m.filter? ignore = none := by
      rw [Member.filter?_eq_none_iff]
      rw [hleaves, List.filter_eq_nil_iff] at hnil
      exact fun f hf => by simpa using hnil f hf
    rw [hnone] at hkept
    cases hkept
  · intro f hf
    rw [hleaves] at hf
    exact (h.named_of_mem f (List.mem_filter.mp hf).1).2.2

/-- It has one row: the name of the slot, and the identifier that the name has without a number. -/
lemma slotRow_of_filter? {name : String} {m kept : Member FunctionDecl}
    (h : HoldsSlot owner name nodes m) (hkept : m.filter? ignore = some kept) :
    slotRow kept = [⟨name, owner.name ++ "_" ++ name⟩] := by
  cases h with
  | @leaf f h =>
      obtain ⟨-, hscope, hname⟩ := h.named f List.mem_cons_self
      have hnodes : nodes.length = 1 := by rw [← h.declared]; rfl
      have hnumber : f.overload = none := List.head_eq_of_cons_eq (h.single hnodes)
      have hleaf : kept = .leaf f := by
        rw [Member.filter?] at hkept
        split at hkept <;> cases hkept
        rfl
      rw [hleaf]
      simp [slotRow, Member.first?, Member.isGroup, identifier, hnumber, hscope, hname]
  | @group fs h several =>
      rw [Member.filter?, Member.filterAll_map_leaf] at hkept
      cases hfs : fs.filter (! ignore ·) with
      | nil => rw [hfs] at hkept; cases hkept
      | cons first rest =>
          rw [hfs] at hkept
          cases hkept
          have hfirst : first ∈ fs := List.mem_of_mem_filter (hfs ▸ List.mem_cons_self)
          obtain ⟨-, hscope, hname⟩ := h.named first hfirst
          rw [← hscope, ← hname]
          rfl

/-- The rows of the slots that are kept: one for each name of a kept function. -/
lemma exists_rows_filterAll {names : List String} {members : List (Member FunctionDecl)}
    (h : HoldsSlots owner nodes names members) :
    ∃ kept : List String, kept.Sublist names
      ∧ (Member.filterAll ignore members).flatMap slotRow
        = kept.map (fun name => ⟨name, owner.name ++ "_" ++ name⟩)
      ∧ ∀ name, name ∈ kept
        ↔ ∃ f ∈ Member.leavesAll (Member.filterAll ignore members), f.name = name := by
  induction h with
  | nil => exact ⟨[], .slnil, rfl, fun name => by simp [Member.filterAll, Member.leavesAll]⟩
  | @cons own m names members hm _ ih =>
      obtain ⟨kept, hsub, hrows, hmem⟩ := ih
      rw [Member.filterAll]
      cases hslot : m.filter? ignore with
      | none => exact ⟨kept, hsub.cons own, hrows, hmem⟩
      | some keptSlot =>
          obtain ⟨hne, hnamed⟩ := named_of_filter? ignore hm hslot
          refine ⟨own :: kept, hsub.cons_cons own, ?_, fun name => ?_⟩
          · rw [List.flatMap_cons, slotRow_of_filter? ignore hm hslot, hrows]
            rfl
          · simp only [List.mem_cons, Member.leavesAll, List.mem_append, hmem name, or_and_right,
              exists_or]
            refine or_congr_left ⟨?_, ?_⟩
            · rintro rfl
              obtain ⟨f, hf⟩ := List.exists_mem_of_ne_nil _ hne
              exact ⟨f, hf, hnamed f hf⟩
            · rintro ⟨f, hf, rfl⟩
              exact hnamed f hf

end Kept

/-- The rows of a class: one for each name of a kept member, then those of the class itself. -/
lemma methods_ofSource (o : Options) (library : Option String) (source : ClassSource) :
    ∃ names : List String, names.Nodup
      ∧ (∀ name, name ∈ names ↔ ∃ f ∈ Member.leavesAll (ClassDecl.ofSource library source).members,
        isExcluded o f = false ∧ f.name = name)
      ∧ (ClassFile.ofKept o (.ofSource library source)).methods
        = names.map (methodRow (.ofSource library source))
          ++ hookRows (.ofSource library source) := by
  have hgroups := grouping_ofSource library source
  obtain ⟨names, hsub, hrows, hmem⟩ := exists_rows_filterAll (isExcluded o) hgroups.slots
  refine ⟨names, hsub.nodup hgroups.nodup, fun name => ?_, ?_⟩
  · rw [hmem, Member.leavesAll_filterAll]
    simp [and_assoc]
  · show (keptSlots o _).flatMap slotRow ++ _ ++ _ = _
    rw [keptSlots, keptMembers, filterMembers_getD, hrows, List.append_assoc]
    rfl

/-! ### Bound members -/

/-- The rows of members and those of the class have names of their own exactly when no member has
one of the names of the class. -/
lemma nodup_methods_iff {c : ClassDecl} {names : List String} (h : names.Nodup) :
    ((names.map (methodRow c) ++ hookRows c).map Row.name).Nodup
      ↔ ∀ name ∈ names, name ∉ hookNames := by
  rw [List.map_append, map_name_methodRow, map_name_hookRows, List.nodup_append,
    and_iff_right h, and_iff_right nodup_hookNames]
  exact ⟨fun hne name hname hhook => hne name hname name hhook rfl,
    fun hfree name hname other hother heq => hfree name hname (heq ▸ hother)⟩

/-- A member stays bound exactly when it does not have one of these names. -/
lemma register_methods_iff {c : ClassDecl} {names : List String} (h : names.Nodup) {name : String}
    (hname : name ∈ names) (table : NameTable) :
    register table (names.map (methodRow c) ++ hookRows c) name = some (methodRow c name).identifier
      ↔ name ∉ hookNames := by
  have hrows : ((names.map (methodRow c)).map Row.name).Nodup := by rwa [map_name_methodRow]
  have hhooks : ((hookRows c).map Row.name).Nodup := nodup_hookNames
  refine (register_append_iff hrows hhooks (List.mem_map_of_mem hname) table).trans ?_
  constructor
  · intro hlate hhook
    obtain ⟨hook, hmem, rfl⟩ := List.mem_map.mp (map_name_hookRows c ▸ hhook)
    exact identifier_hookRow_ne hmem (hlate hook hmem rfl)
  · intro hfree hook hmem heq
    have hhook : hook.name ∈ hookNames := List.mem_map_of_mem hmem
    rw [heq] at hhook
    exact absurd hhook hfree

/-- **Registered methods.** The table of a class has one row for each name of a kept member, with
the C function of the name, and three rows of the class itself. Its names are pairwise distinct
exactly when no kept member is called like one of the three; and whatever was registered before, a
member is bound to its function afterwards exactly when it is not. -/
theorem methods_bound_iff (o : Options) (library : Option String) (source : ClassSource) :
    let c := ClassDecl.ofSource library source
    ∃ (file : ClassFile) (names : List String), ClassFile.ofClass o everywhere c = .ok file
      ∧ HasTable file.text (c.name ++ "_member_methods") file.methods
      ∧ file.methods = names.map (methodRow c) ++ hookRows c
      ∧ (∀ name, name ∈ names
        ↔ ∃ f ∈ Member.leavesAll c.members, isExcluded o f = false ∧ f.name = name)
      ∧ ((file.methods.map Row.name).Nodup ↔ ∀ name ∈ names, name ∉ hookNames)
      ∧ ∀ name ∈ names, ∀ table,
        register table file.methods name = some (methodRow c name).identifier
          ↔ name ∉ hookNames := by
  intro c
  obtain ⟨names, hnodup, hmem, hmethods⟩ := methods_ofSource o library source
  refine ⟨.ofKept o c, names, ofClass_eq everywhere_eq o c, hasTable_methods (.ofKept o c), hmethods,
    hmem, ?_, fun name hname table => ?_⟩
  · rw [hmethods]
    exact nodup_methods_iff hnodup
  · rw [hmethods]
    exact register_methods_iff hnodup hname table

/-- A class of images that can tell whether they were deleted. -/
def deletedSource : ClassSource where
  name := "Image"
  node := Sketch.compound "Image" "image.h"
  members := [{ name := "deleted", result := "bool" : Sketch }.declare]

/-- The member is kept and has a row, but the row of the class behind it takes its place. -/
theorem deleted_overwritten :
    let c := ClassDecl.ofSource (some "dub") deletedSource
    (∀ node ∈ deletedSource.members, isIdentifier (declaredName node) = true)
      ∧ (∃ f ∈ Member.leavesAll c.members, isExcluded {} f = false ∧ f.name = "deleted")
      ∧ ∃ file, ClassFile.ofClass {} everywhere c = .ok file
        ∧ file.methods.map Row.name = ["deleted", "__tostring", "__gc", "deleted"]
        ∧ ¬ (file.methods.map Row.name).Nodup
        ∧ ∀ table, register table file.methods "deleted" = some "dub_isDeleted" := by
  refine ⟨by decide +kernel, ⟨_, List.mem_cons_self, by decide +kernel, by decide +kernel⟩,
    .ofKept {} _, ofClass_eq everywhere_eq _ _, by decide +kernel, by decide +kernel,
    fun table => ?_⟩
  have hlast : ([deletedRow].map Row.name).Nodup := by decide
  show register table (_ ++ [deletedRow]) deletedRow.name = some deletedRow.identifier
  rw [register_append]
  exact register_of_nodup hlast List.mem_cons_self _

end LuaBinder.Lua
