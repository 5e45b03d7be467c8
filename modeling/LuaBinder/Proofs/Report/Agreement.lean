import LuaBinder.Proofs.Lua.Coverage
import LuaBinder.Proofs.Lua.Closure
import LuaBinder.Report.Baking

/-!
A listing describes the bindings that are baked.

A listing is computed from the declarations, and the bindings are rendered from them on another way.
Both leave out the same functions and take one name for each group of overloads, so the names of a
listing are those of the tables in the rendered files. Both start from one loaded namespace, and
nothing is used of how its documents are read.

* `ListsClass`: the entry of a class in a listing names the rows of the tables in its file.
* `ListsFree`: the listed functions are the rows of the table in the file of the namespace.
* `listing_agrees_with_baking`: a listing and a dry run fail with the same error, or they both
  succeed and agree.
-/

namespace LuaBinder

open Code Lua Store

/-! ### Listed names -/

/-- The listed names are those of the rows. -/
lemma boundNames_eq (o : Options) (members : List (Member FunctionDecl)) :
    boundNames o members = ((keptSlots o members).flatMap slotRow).map Row.name := by
  show (keptSlots o members).filterMap (fun m => m.first?.map (·.name)) = _
  induction keptSlots o members with
  | nil => rfl
  | cons m ms ih =>
      rw [List.flatMap_cons, List.map_append, ← ih, slotRow, List.filterMap_cons]
      cases m.first? <;> rfl

/-- Names are listed exactly when slots are kept. -/
lemma boundNames_eq_nil_iff (o : Options) (members : List (Member FunctionDecl)) :
    boundNames o members = [] ↔ keptSlots o members = [] := by
  constructor
  · intro h
    -- a slot without a first function has no function at all
    have hleaves : Member.leavesAll (keptSlots o members) = [] := by
      rw [List.eq_nil_iff_forall_not_mem]
      intro f hf
      obtain ⟨m, hm, hfm⟩ := Member.mem_leavesAll.mp hf
      have hnone : m.first?.map (·.name) = none := List.filterMap_eq_nil_iff.mp h m hm
      rw [Option.map_eq_none_iff, Member.first?_eq_head?_leaves, List.head?_eq_none_iff] at hnone
      rw [hnone] at hfm
      cases hfm
    rw [leavesAll_keptSlots, List.filter_eq_nil_iff] at hleaves
    rw [keptSlots, keptMembers, filterMembers_getD, Member.filterAll_eq_nil_iff]
    exact fun f hf => by simpa using hleaves f hf
  · intro h
    rw [boundNames_eq, h]
    rfl

/-! ### Entries of a listing -/

/-- The entry of a class in a listing. Its members are the rows of the methods in the file of the
class, in front of those that every class has; its constructor is what every row of the class itself
and its aliases stands for, and it is absent when there is no such row. -/
structure ListsClass (o : Options) (c : ClassDecl) (entry : ClassListing) (file : GeneratedFile) :
    Prop where
  name : entry.name = c.name
  aliases : entry.aliases = c.aliases
  path : file.path = classPath c
  tables : ∃ source own, ClassFile.ofClass o everywhere c = .ok source
    ∧ file.content = source.text
    ∧ HasTable file.content (c.name ++ "_member_methods") source.methods
    ∧ source.methods = own
      ++ [⟨"__tostring", c.tostringName⟩, ⟨"__gc", c.destructorName⟩, deletedRow]
    ∧ entry.members = own.map Row.name
    ∧ HasTable file.content (c.name ++ "_namespace_methods") source.creators
    ∧ (∀ r ∈ source.creators, entry.constructor = some r.identifier)
    ∧ (entry.constructor = none ↔ source.creators = [])

/-- The listed functions are the rows of the functions in the file of a namespace. -/
structure ListsFree (o : Options) (n : NamespaceDecl) (functions : List String)
    (file : GeneratedFile) : Prop where
  path : file.path = sourcePath n.name
  table : ∃ source, NamespaceFile.ofNamespace o everywhere n = .ok source
    ∧ file.content = source.text
    ∧ HasTable file.content (n.name ++ "_functions") source.rows
    ∧ functions = source.rows.map Row.name

lemma listsClass_keptClassFile (o : Options) (c : ClassDecl) :
    ListsClass o c (.ofClass o c) (keptClassFile o c) := by
  refine ⟨rfl, rfl, rfl, .ofKept o c, (keptSlots o c.members).flatMap slotRow,
    ofClass_eq everywhere_eq o c, rfl, hasTable_methods (.ofKept o c), ?_, boundNames_eq o c.members,
    hasTable_creators (.ofKept o c), ?_, ?_⟩
  · show _ ++ _ ++ _ = _
    rw [List.append_assoc]
    rfl
  · intro r hr
    show (keptConstructors o c).head?.map _ = _
    cases hkept : keptConstructors o c with
    | nil => rw [ClassFile.ofKept, hkept] at hr; cases hr
    | cons first rest =>
        have hrow : r ∈ creatorRows c (keptConstructors o c) := hr
        rw [hkept] at hrow
        obtain ⟨name, -, rfl⟩ := List.mem_map.mp hrow
        rfl
  · show (keptConstructors o c).head?.map _ = none ↔ creatorRows c (keptConstructors o c) = []
    cases keptConstructors o c with
    | nil => exact iff_of_true rfl rfl
    | cons first rest => exact iff_of_false (by simp) (by simp [creatorRows])

lemma listsFree_of_mem {o : Options} {n : NamespaceDecl} {file : GeneratedFile}
    (h : file ∈ keptNamespaceFile? o n) : ListsFree o n (boundNames o n.functions) file := by
  rw [keptNamespaceFile?] at h
  split at h
  · cases h
  · cases h
    exact ⟨rfl, .ofKept o n, ofNamespace_eq everywhere_eq o n, rfl, hasTable_functions (.ofKept o n),
      boundNames_eq o n.functions⟩

/-- Functions are listed exactly when there is a file for them. -/
lemma boundNames_eq_nil_iff_keptNamespaceFile? (o : Options) (n : NamespaceDecl) :
    boundNames o n.functions = [] ↔ keptNamespaceFile? o n = none := by
  rw [boundNames_eq_nil_iff, keptNamespaceFile?]
  split
  · next h => exact iff_of_true (List.isEmpty_iff.mp h) rfl
  · next h => exact iff_of_false (fun hnil => h (List.isEmpty_iff.mpr hnil)) (Option.some_ne_none _)

/-! ### Listings and bakings -/

/-- A listing and a dry run of a namespace tell the same: the name, the functions left out with
their reasons, an entry for the file of each class, and the functions of the file of the namespace,
which is shown exactly when there are some. -/
structure Agrees (o : Options) (n : NamespaceDecl) (listing : Listing) (baking : Baking) :
    Prop where
  name : listing.name = n.name ∧ baking.name = n.name
  ignored : listing.ignored = baking.ignored
  count : listing.classes.length = n.classes.length ∧ baking.classCount = n.classes.length
  files : ∃ (classFiles : List GeneratedFile) (free? : Option GeneratedFile),
    baking.outcome = .shown (classFiles ++ free?.toList ++ [supportFile])
      ∧ classFiles.length = n.classes.length
      ∧ List.Forall₂ (fun c (shown : ClassListing × GeneratedFile) =>
          ListsClass o c shown.1 shown.2) n.classes (listing.classes.zip classFiles)
      ∧ (listing.functions = [] ↔ free? = none)
      ∧ ∀ file ∈ free?, ListsFree o n listing.functions file

/-- What a dry run of a namespace comes to. -/
def shownBaking (s : Settings) (n : NamespaceDecl) : Baking :=
  .ofNamespace s n (.shown (keptFiles s.options n))

lemma agrees_ofNamespace (s : Settings) (n : NamespaceDecl) :
    Agrees s.options n (.ofNamespace s.options n) (shownBaking s n) := by
  refine ⟨⟨rfl, rfl⟩, rfl, ⟨List.length_map _, rfl⟩, n.classes.map (keptClassFile s.options),
    keptNamespaceFile? s.options n, rfl, List.length_map _, ?_,
    boundNames_eq_nil_iff_keptNamespaceFile? s.options n, fun file hfile => listsFree_of_mem hfile⟩
  show List.Forall₂ _ _ ((n.classes.map (ClassListing.ofClass s.options)).zip
    (n.classes.map (keptClassFile s.options)))
  rw [List.zip_map', List.forall₂_map_right_iff, List.forall₂_same]
  exact fun c _ => listsClass_keptClassFile s.options c

/-- **Listings and bakings.** Under any settings, a listing and a dry run fail with the same error
of the load, or both succeed and tell the same about the namespace that is loaded. -/
theorem listing_agrees_with_baking (fs : FileSystem) (s : Settings) :
    (∃ cause, Doxygen.loadNamespace fs s.input s.name = .error cause
        ∧ list fs s = .error (.loading s.input cause)
        ∧ bake fs s true = (fs, .error (.loading s.input cause)))
      ∨ ∃ n listing baking, s.load fs = .ok n ∧ list fs s = .ok listing
        ∧ bake fs s true = (fs, .ok baking) ∧ Agrees s.options n listing baking := by
  cases hload : Doxygen.loadNamespace fs s.input s.name with
  | error cause =>
      have hsettings : s.load fs = .error (.loading s.input cause) := by
        rw [Settings.load, hload]
      refine .inl ⟨cause, rfl, ?_, ?_⟩
      · rw [list, hsettings]
        rfl
      · rw [bake, hsettings]
  | ok n =>
      have hsettings : s.load fs = .ok n := by
        rw [Settings.load, hload]
      have hproduce : produce fs s true n = (fs, .ok (.shown (keptFiles s.options n))) := by
        rw [produce]
        simp only [if_true, preview_boundTo]
      refine .inr ⟨n, .ofNamespace s.options n, shownBaking s n, hsettings, ?_, ?_,
        agrees_ofNamespace s n⟩
      · rw [list, hsettings]
        rfl
      · rw [bake, hsettings]
        simp only [hproduce]
        rfl

end LuaBinder
